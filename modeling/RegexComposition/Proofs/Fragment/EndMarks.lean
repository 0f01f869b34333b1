import RegexComposition.Proofs.Fragment.Acceptance
import RegexComposition.Proofs.Fragment.Endings

/-!
# The last end mark

Whether the last mark of an emission becomes the end anchor is decided by what follows it in the
text.  The structure of the fragment decides it just as well: the mark must be in the last place of
a last place, and so on, and nothing on the way may be modified.

Main results:

- `Emission.endsInMark_sequence`, `Emission.endsInMark_alternation`, `Modifiers.endsInMark_apply`:
  what follows the last mark when emissions are put together.
- `Graph.Anchored`: the fragments that end at the end of the expression.
- `Graph.endsInMark_emission_iff`: these are the fragments that emit the mark last.
- `Graph.source_of_structure`: what becomes of the marks of a fragment.
-/

namespace RegexComposition

/-! ## The last mark of an emission -/

namespace Emission

variable {a b e : Emission}

theorem all_isClosing_ofChars (text : List Char) :
    (ofChars text).all isClosing = text.all (· == ')') := by
  rw [ofChars, List.all_map]
  congr 1
  ext c
  by_cases hc : c = ')' <;> simp [isClosing, hc]

/-- The last mark of two emissions is that of the second one, unless this is nothing but closing
parentheses. -/
theorem endsInMark_append (a b : Emission) :
    (a ++ b).endsInMark = if b.all isClosing then a.endsInMark else b.endsInMark := by
  have hall : (b.reverse.dropWhile isClosing).isEmpty = b.all isClosing := by
    rw [Bool.eq_iff_iff, List.isEmpty_iff, List.dropWhile_eq_nil_iff, List.all_eq_true]
    simp only [List.mem_reverse]
  unfold endsInMark
  rw [List.reverse_append, List.dropWhile_append, hall]
  by_cases hb : b.all isClosing
  · rw [if_pos hb, if_pos hb]
  · rw [if_neg hb, if_neg hb, List.head?_append_of_ne_nil]
    intro hnil
    rw [hnil] at hall
    exact hb hall.symm

theorem endsInMark_of_append_of_not_all (a : Emission) (hb : b.all isClosing = false) :
    (a ++ b).endsInMark = b.endsInMark := by
  rw [endsInMark_append, if_neg (by simp [hb])]

/-- Closing parentheses alone contain no mark. -/
theorem endsInMark_of_all (h : e.all isClosing = true) : e.endsInMark = false := by
  have hnil : e.reverse.dropWhile isClosing = [] := by
    rw [List.dropWhile_eq_nil_iff]
    intro s hs
    exact List.all_eq_true.1 h s (List.mem_reverse.1 hs)
  rw [endsInMark, hnil]
  rfl

/-- A text contains no mark. -/
theorem endsInMark_ofChars (text : List Char) : (ofChars text).endsInMark = false := by
  have hnot : (ofChars text).endsInMark ≠ true := by
    intro h
    rcases exists_of_endsInMark h with ⟨front, k, he, -⟩
    have hmem : Symbol.endMark ∈ ofChars text := by
      rw [he]
      exact List.mem_append_right _ List.mem_cons_self
    rcases List.mem_map.1 hmem with ⟨c, -, hc⟩
    cases hc
  exact eq_false_of_ne_true hnot

/-- A text in front makes no difference. -/
theorem endsInMark_ofChars_append (text : List Char) (e : Emission) :
    (ofChars text ++ e).endsInMark = e.endsInMark := by
  rw [endsInMark_append]
  by_cases he : e.all isClosing
  · rw [if_pos he, endsInMark_ofChars, endsInMark_of_all he]
  · rw [if_neg he]

/-- A text behind must consist of closing parentheses. -/
theorem endsInMark_append_ofChars (e : Emission) (text : List Char) :
    (e ++ ofChars text).endsInMark = (text.all (· == ')') && e.endsInMark) := by
  rw [endsInMark_append, all_isClosing_ofChars, endsInMark_ofChars]
  cases text.all (· == ')') <;> simp

theorem endsInMark_wrap (before : String) (e : Emission) (after : String) :
    (wrap before e after).endsInMark = (after.toList.all (· == ')') && e.endsInMark) := by
  rw [wrap, ofString, ofString, endsInMark_append_ofChars, endsInMark_ofChars_append]

theorem endsInMark_enclose (e : Emission) : (enclose e).endsInMark = e.endsInMark := by
  unfold enclose
  split
  · rfl
  · rw [endsInMark_wrap]
    simp

/-- An enclosed part is more than closing parentheses. -/
theorem not_all_isClosing_enclose (e : Emission) : (enclose e).all isClosing = false := by
  have hopening : '(' ∈ chars (enclose e) := List.mem_of_mem_head? (head?_enclose e)
  rcases List.mem_filterMap.1 hopening with ⟨s, hs, hchar⟩
  rw [List.all_eq_false]
  refine ⟨s, hs, ?_⟩
  cases s with
  | endMark => cases hchar
  | char c =>
      obtain rfl := Option.some.inj hchar
      simp [isClosing]

/-- The last part of a composite decides. -/
theorem endsInMark_sequence (parts : List Emission) :
    (sequence parts).endsInMark = parts.getLast?.any endsInMark := by
  induction parts using List.reverseRecOn with
  | nil => rfl
  | append_singleton parts e _ =>
      have happend : sequence (parts ++ [e]) = sequence parts ++ enclose e := by
        simp [sequence]
      rw [happend, endsInMark_of_append_of_not_all _ (not_all_isClosing_enclose e),
        endsInMark_enclose, List.getLast?_concat]
      rfl

/-- The last alternative decides, and without alternatives the own part of the fragment. -/
theorem endsInMark_alternation (own : Emission) (branches : List Emission) :
    (alternation own branches).endsInMark = (branches.getLast?.getD own).endsInMark := by
  induction branches using List.reverseRecOn with
  | nil => rfl
  | append_singleton branches e _ =>
      have halternation : alternation own (branches ++ [e]) =
          (wrap "((" own ")" ++ branches.flatMap (wrap "|(" · ")")) ++
            (wrap "|(" e ")" ++ ofString ")") := by
        cases branches <;> simp [alternation]
      have hlast : (wrap "|(" e ")" ++ ofString ")").all isClosing = false := by
        simp [wrap, ofString, ofChars, isClosing]
      rw [halternation, endsInMark_of_append_of_not_all _ hlast, ofString,
        endsInMark_append_ofChars, endsInMark_wrap, List.getLast?_concat]
      simp

/-- A forward reference has the mark of its end last. -/
theorem endsInMark_upTo (direction : UntilDirection) (ahead : Emission) :
    (upTo direction ahead [Symbol.endMark]).endsInMark = true := by
  have hmark : ∀ e : Emission, (e ++ [Symbol.endMark]).endsInMark = true :=
    fun e => endsInMark_of_append_of_not_all e rfl
  unfold upTo
  cases direction <;> simp [endsInMark_wrap, hmark]

/-- A text that may be put behind, and that is more than closing parentheses. -/
theorem endsInMark_ite_wrap (condition : Bool) (before : String) (e : Emission) {after : String}
    (hafter : after.toList.all (· == ')') = false) :
    (if condition then wrap before e after else e).endsInMark =
      (!condition && e.endsInMark) := by
  cases condition with
  | false => rfl
  | true =>
      rw [if_pos rfl, endsInMark_wrap, hafter]
      rfl

end Emission

namespace Modifiers

/-- Nothing is set but a quantifier that closes groups. -/
@[mk_iff]
structure OnlyClose (m : Modifiers) : Prop where
  oneOrMore : m.oneOrMore = false
  zeroOrMore : m.zeroOrMore = false
  negated : m.negated = false
  optional : m.optional = false
  quantifier : ∀ spelled ∈ m.quantifier, ∀ c ∈ spelled.toList, c = ')'

/-- Each modifier puts something behind what it is applied to. -/
theorem endsInMark_apply (m : Modifiers) (e : Emission) :
    (m.apply e).endsInMark = (!(m.optional && !m.zeroOrMore) && (!m.negated &&
      (m.quantifier.all (·.toList.all (· == ')')) &&
        (!m.zeroOrMore && (!m.oneOrMore && e.endsInMark))))) := by
  have hstar : (if m.optional then ")*?" else ")*").toList.all (· == ')') = false := by
    cases m.optional <;> rfl
  unfold apply
  dsimp only
  rw [Emission.endsInMark_ite_wrap _ _ _ rfl, Emission.endsInMark_ite_wrap _ _ _ rfl]
  cases m.quantifier with
  | none =>
      dsimp only
      rw [Emission.endsInMark_ite_wrap _ _ _ hstar, Emission.endsInMark_ite_wrap _ _ _ rfl]
      rfl
  | some spelled =>
      have hclosing : (")" ++ spelled).toList.all (· == ')') = spelled.toList.all (· == ')') := by
        simp
      dsimp only
      rw [Emission.endsInMark_wrap, hclosing, Emission.endsInMark_ite_wrap _ _ _ hstar,
        Emission.endsInMark_ite_wrap _ _ _ rfl]
      rfl

/-- What is last stays last only if the modifiers close groups and nothing else. -/
theorem endsInMark_apply_iff (m : Modifiers) (e : Emission) :
    (m.apply e).endsInMark = true ↔ m.OnlyClose ∧ e.endsInMark = true := by
  have hquantifier : m.quantifier.all (·.toList.all (· == ')')) = true ↔
      ∀ spelled ∈ m.quantifier, ∀ c ∈ spelled.toList, c = ')' := by
    cases m.quantifier <;> simp
  rw [endsInMark_apply, onlyClose_iff, ← hquantifier]
  cases m.optional <;> cases m.zeroOrMore <;> cases m.oneOrMore <;> cases m.negated <;> simp

end Modifiers

namespace FragmentKind

/-- The last part of a composite has the property.  A forward reference has an end of its own, and
a pattern has none. -/
def EndsWith (p : FragmentId → Prop) : FragmentKind → Prop
  | native _ => False
  | composite children => ∃ last ∈ children.getLast?, p last
  | upTo _ _ _ | expressionEnd => True

/-- The last part of a kind decides whether a mark is last. -/
theorem endsInMark_emission_iff {part : FragmentId → Emission} {p : FragmentId → Prop}
    {kind : FragmentKind}
    (hending : ∀ ahead ending direction, kind = .upTo ahead ending direction →
      part ending = [Symbol.endMark])
    (hparts : ∀ id ∈ kind.parts, (part id).endsInMark = true ↔ p id) :
    (kind.emission part).endsInMark = true ↔ kind.EndsWith p := by
  cases kind with
  | native pattern =>
      rw [emission, Emission.ofString, Emission.endsInMark_ofChars]
      simp [EndsWith]
  | composite children =>
      rw [emission, Emission.endsInMark_sequence, List.getLast?_map, EndsWith]
      cases hlast : children.getLast? with
      | none => simp
      | some last => simpa using hparts last (List.mem_of_getLast? hlast)
  | upTo ahead ending direction =>
      rw [emission, hending ahead ending direction rfl, Emission.endsInMark_upTo]
      simp [EndsWith]
  | expressionEnd => exact iff_of_true rfl trivial

end FragmentKind

namespace Graph

variable {g : Graph} {levels : Nat} {id : FragmentId}

/-! ## The end of the expression in the structure of a fragment -/

/-- The fragment ends at the end of the expression: its last alternative does, or it has none and
is a forward reference, the end itself or a composite with such a child in the last place.
Modifiers must not put anything behind it. -/
inductive Anchored (g : Graph) : FragmentId → Prop
  | alternative {id last : FragmentId} : (g.node id).modifiers.OnlyClose →
      (g.node id).alternatives.getLast? = some last → g.Anchored last → g.Anchored id
  | upTo {id ahead ending : FragmentId} {direction : UntilDirection} :
      (g.node id).modifiers.OnlyClose → (g.node id).alternatives = [] →
      (g.node id).kind = .upTo ahead ending direction → g.Anchored id
  | expressionEnd {id : FragmentId} : (g.node id).modifiers.OnlyClose →
      (g.node id).alternatives = [] → (g.node id).kind = .expressionEnd → g.Anchored id
  | child {id last : FragmentId} {children : List FragmentId} :
      (g.node id).modifiers.OnlyClose → (g.node id).alternatives = [] →
      (g.node id).kind = .composite children → children.getLast? = some last → g.Anchored last →
      g.Anchored id

/-- The last alternative decides, and without alternatives the kind of the fragment. -/
theorem anchored_iff_of_alternatives {last : FragmentId}
    (hlast : (g.node id).alternatives.getLast? = some last) :
    g.Anchored id ↔ (g.node id).modifiers.OnlyClose ∧ g.Anchored last := by
  have hne : (g.node id).alternatives ≠ [] := by
    intro hnil
    rw [hnil] at hlast
    cases hlast
  constructor
  · intro h
    cases h with
    | alternative hclose hlast' hanchored =>
        obtain rfl := Option.some.inj (hlast.symm.trans hlast')
        exact ⟨hclose, hanchored⟩
    | upTo _ hnil | expressionEnd _ hnil | child _ hnil => exact absurd hnil hne
  · rintro ⟨hclose, hanchored⟩
    exact .alternative hclose hlast hanchored

theorem anchored_iff_of_nil (hnil : (g.node id).alternatives = []) :
    g.Anchored id ↔ (g.node id).modifiers.OnlyClose ∧ (g.node id).kind.EndsWith g.Anchored := by
  constructor
  · intro h
    cases h with
    | alternative _ hlast =>
        rw [hnil] at hlast
        cases hlast
    | upTo hclose _ hkind =>
        rw [hkind]
        exact ⟨hclose, trivial⟩
    | expressionEnd hclose _ hkind =>
        rw [hkind]
        exact ⟨hclose, trivial⟩
    | child hclose _ hkind hlast hanchored =>
        rw [hkind]
        exact ⟨hclose, _, hlast, hanchored⟩
  · rintro ⟨hclose, hends⟩
    cases hkind : (g.node id).kind with
    | native pattern =>
        rw [hkind] at hends
        exact hends.elim
    | composite children =>
        rw [hkind] at hends
        rcases hends with ⟨last, hlast, hanchored⟩
        exact .child hclose hnil hkind hlast hanchored
    | upTo ahead ending direction => exact .upTo hclose hnil hkind
    | expressionEnd => exact .expressionEnd hclose hnil hkind

/-- A fragment emits a mark in the last place exactly if it ends at the end of the expression. -/
theorem endsInMark_emission_iff (hends : g.HasBareEnds) (h : g.NestsWithin levels id) :
    (g.emission levels id).endsInMark = true ↔ g.Anchored id := by
  induction levels generalizing id with
  | zero => exact h.elim
  | succ levels ih =>
      rw [emission, Modifiers.endsInMark_apply_iff, Emission.endsInMark_alternation,
        List.getLast?_map]
      cases hlast : (g.node id).alternatives.getLast? with
      | some last =>
          have hmem : last ∈ (g.node id).links :=
            List.mem_append_left _ (List.mem_of_getLast? hlast)
          rw [anchored_iff_of_alternatives hlast, ← ih (h last hmem)]
          rfl
      | none =>
          have hparts : ∀ next ∈ (g.node id).kind.parts, g.NestsWithin levels next :=
            fun next hnext => h next (List.mem_append_right _ hnext)
          rw [anchored_iff_of_nil (List.getLast?_eq_none_iff.1 hlast)]
          apply and_congr_right'
          apply FragmentKind.endsInMark_emission_iff
          · intro ahead ending direction hkind
            rw [hkind] at hparts
            have hplain : g.IsPlain ending .expressionEnd :=
              hends ending ⟨id, ahead, direction, hkind⟩
            cases levels with
            | zero => exact (hparts ahead List.mem_cons_self).elim
            | succ levels => exact hplain.emission levels
          · intro next hnext
            exact ih (hparts next hnext)

/-- What becomes of the marks is decided by the structure of the fragment, if nothing was added to
the ends of forward references.  If the fragment ends at the end of the expression, its last mark
becomes the end anchor, behind which groups are closed and nothing else; otherwise all of its marks
vanish. -/
theorem source_of_structure (hends : g.HasBareEnds) (h : g.NestsWithin (maxNesting + 1) id) :
    ∃ e, g.emit (maxNesting + 1) id = .ok e ∧
      (g.Anchored id → ∃ front k, e = front ++ .endMark :: Emission.ofChars (List.replicate k ')') ∧
        g.source id =
          .ok (String.ofList (Emission.chars front ++ '$' :: List.replicate k ')'))) ∧
      (¬ g.Anchored id → g.source id = .ok (String.ofList (Emission.chars e))) := by
  refine ⟨_, emit_of_nestsWithin h, fun hanchored => ?_, fun hanchored => ?_⟩
  · have hmark := (endsInMark_emission_iff hends h).2 hanchored
    rcases Emission.exists_of_endsInMark hmark with ⟨front, k, he, hresolve⟩
    refine ⟨front, k, he, ?_⟩
    rw [source_of_nestsWithin h, hresolve]
  · have hmark := mt (endsInMark_emission_iff hends h).1 hanchored
    rw [source_of_nestsWithin h, Emission.resolve_eq_chars (eq_false_of_ne_true hmark)]

/-- A composite that ends in a forward reference, and the last alternative of a pattern; in the
composite beside it a closing parenthesis follows the reference. -/
def lastPlaces : Graph := ⟨#[
  { kind := .native (.ofSource ")") },
  { kind := .expressionEnd },
  { kind := .upTo ⟨0⟩ ⟨1⟩ .behind },
  { kind := .composite [⟨0⟩, ⟨2⟩], modifiers := { quantifier := some "))" } },
  { kind := .composite [⟨2⟩, ⟨0⟩] },
  { kind := .native (.ofSource "a"), alternatives := [⟨4⟩, ⟨3⟩] }]⟩

theorem source_lastPlaces : ∃ e, lastPlaces.emit (maxNesting + 1) ⟨5⟩ = .ok e ∧
    (∃ front k, e = front ++ .endMark :: Emission.ofChars (List.replicate k ')') ∧
      lastPlaces.source ⟨5⟩ =
        .ok (String.ofList (Emission.chars front ++ '$' :: List.replicate k ')'))) ∧
    ∃ e', lastPlaces.emit (maxNesting + 1) ⟨4⟩ = .ok e' ∧
      lastPlaces.source ⟨4⟩ = .ok (String.ofList (Emission.chars e')) := by
  have hends : lastPlaces.HasBareEnds := by
    rintro id ⟨⟨_ | _ | _ | _ | _ | _ | i⟩, ahead, direction, hkind⟩
    · cases hkind
    · cases hkind
    · obtain rfl := (FragmentKind.upTo.inj hkind).2.1
      exact ⟨by decide, rfl, rfl, rfl, rfl⟩
    · cases hkind
    · cases hkind
    · cases hkind
    · cases hkind
  have holder : ∀ i ≤ 5, ∀ next ∈ (lastPlaces.node ⟨i⟩).links, next.index < i := by decide
  have hnests : ∀ i ≤ 5, lastPlaces.NestsWithin (maxNesting + 1) ⟨i⟩ := fun i hi =>
    nestsWithin_of_older (fun j hj => holder j (Nat.le_trans hj hi))
      (Nat.lt_of_le_of_lt hi (by decide))
  have hreference : lastPlaces.Anchored ⟨2⟩ := .upTo ⟨rfl, rfl, rfl, rfl, nofun⟩ rfl rfl
  have hcomposite : lastPlaces.Anchored ⟨3⟩ := by
    refine .child ⟨rfl, rfl, rfl, rfl, ?_⟩ rfl rfl rfl hreference
    rintro _ ⟨⟩ c hc
    simpa using hc
  have hpattern : lastPlaces.Anchored ⟨5⟩ :=
    .alternative ⟨rfl, rfl, rfl, rfl, nofun⟩ rfl hcomposite
  have hbeside : ¬ lastPlaces.Anchored ⟨4⟩ := by
    rw [anchored_iff_of_nil rfl]
    rintro ⟨-, last, hlast, hanchored⟩
    obtain rfl := Option.some.inj hlast
    rw [anchored_iff_of_nil rfl] at hanchored
    exact hanchored.2
  rcases source_of_structure hends (hnests 5 (by decide)) with ⟨e, hemit, hanchor, -⟩
  rcases source_of_structure hends (hnests 4 (by decide)) with ⟨e', hemit', -, hvanish⟩
  exact ⟨e, hemit, hanchor hpattern, e', hemit', hvanish hbeside⟩

end Graph

end RegexComposition

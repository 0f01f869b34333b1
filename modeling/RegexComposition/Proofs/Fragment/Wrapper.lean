import RegexComposition.Proofs.Fragment.Insertion
import RegexComposition.Proofs.Fragment.Leaf
import RegexComposition.Proofs.Fragment.Resemblance
import RegexComposition.Proofs.Pattern.Complement

/-!
# Wrappers

A wrapper around a fragment brings modifiers of its own.  Whatever these are, the fragment in it is
compiled as it is alone and put in parentheses.  A wrapper that is negated becomes a complement, in
which the parentheses and the signs of its repetitions are characters of the class.

Main results:

- `Modifiers.resolve_apply_negated`: what negation makes of an emission.
- `Emission.pass_enclose`: an enclosed fragment that is accepted alone leads out of every class.
- `Graph.exists_of_regex_addWrapper`: what a wrapper is compiled into.
-/

namespace RegexComposition

open Enclosure

/-! ## Negation -/

/-- What the repetitions of a negated part put in front of it. -/
def Modifiers.frontSigns (m : Modifiers) : List Char :=
  List.replicate (m.oneOrMore.toNat + m.zeroOrMore.toNat) '('

/-- What the repetitions of a negated part put behind it. -/
def Modifiers.backSigns (m : Modifiers) : List Char :=
  (if m.oneOrMore then [')', '+'] else []) ++
    (if m.zeroOrMore then if m.optional then [')', '*', '?'] else [')', '*'] else [])

namespace Modifiers

variable {m : Modifiers}

/-- The signs of repetitions mean nothing in a class, and they are no letters. -/
theorem signs_plain (m : Modifiers) :
    ∀ c ∈ m.frontSigns ++ m.backSigns, c.toNat < 65 ∧ c ∉ ['-', '\\', ']'] := by
  rcases m with ⟨optional, oneOrMore, zeroOrMore, quantifier, negated⟩
  cases optional <;> cases oneOrMore <;> cases zeroOrMore <;>
    simp [frontSigns, backSigns, List.replicate]

/-- Behind a repeated part there is a closing parenthesis first. -/
theorem exists_backSigns_eq (h : m.oneOrMore = true ∨ m.zeroOrMore = true) :
    ∃ after, m.backSigns = ')' :: after := by
  rcases m with ⟨optional, oneOrMore, zeroOrMore, quantifier, negated⟩
  cases optional <;> cases oneOrMore <;> cases zeroOrMore <;> simp [backSigns] at h ⊢

end Modifiers

namespace Emission

variable {e : Emission} {before after : String}

/-- Behind an emission there may be something that is no closing parenthesis; then its marks vanish. -/
theorem resolve_wrap {c : Char} (hc : c ∈ after.toList) (hne : c ≠ ')') (before : String)
    (e : Emission) : resolve (wrap before e after) = before.toList ++ chars e ++ after.toList := by
  have hafter : chars (ofString after) = after.toList := chars_ofChars _
  have hresolve : resolve (ofString after) = after.toList :=
    (resolves_resolve (ofString after)).eq_of_ofChars
  rw [wrap, resolve_append (hafter.symm ▸ hc) hne, hresolve, chars_append]
  exact congrArg (· ++ chars e ++ after.toList) (chars_ofChars _)

end Emission

/-- A negated part becomes a complement with its repetitions inside, and it is optional outside unless
that belongs to a repetition. -/
theorem Modifiers.resolve_apply_negated {m : Modifiers} (hquantifier : m.quantifier = Option.none)
    (hnegated : m.negated = true) (e : Emission) : Emission.resolve (m.apply e) =
      if m.optional && !m.zeroOrMore then
        '(' :: ((Regex.complement (m.frontSigns ++ (e.chars ++ m.backSigns))).toList ++ [')', '?'])
      else (Regex.complement (m.frontSigns ++ (e.chars ++ m.backSigns))).toList := by
  rcases m with ⟨optional, oneOrMore, zeroOrMore, quantifier, negated⟩
  obtain rfl : quantifier = Option.none := hquantifier
  obtain rfl : negated = true := hnegated
  have hbracket : ']' ∈ ("]" : String).toList := by decide
  have hoptional : '?' ∈ (")?" : String).toList := by decide
  unfold apply
  cases optional <;> cases zeroOrMore <;> cases oneOrMore <;>
    simp [Emission.resolve_wrap hbracket, Emission.resolve_wrap hoptional, frontSigns, backSigns,
      Regex.complement, List.replicate]

/-! ## What stands in the parentheses -/

namespace Emission

variable {e : Emission}

/-- An emission that ends with a text does not end in a mark. -/
theorem getLast?_wrap_ne {before after : String} (hafter : after ≠ "") (e : Emission) :
    (wrap before e after).getLast? ≠ some .endMark := by
  have hne : ofString after ≠ [] := by simpa [ofString, ofChars] using hafter
  rw [wrap, List.getLast?_append_of_ne_nil _ hne, ofString, ofChars, List.getLast?_map]
  cases after.toList.getLast? <;> simp

/-- A fragment with alternatives ends with a parenthesis. -/
theorem getLast?_alternation_ne (own : Emission) {branches : List Emission} (h : branches ≠ []) :
    (alternation own branches).getLast? ≠ some .endMark := by
  cases branches with
  | nil => exact absurd rfl h
  | cons branch branches =>
      have hne : ofString ")" ≠ [] := by simp [ofString, ofChars]
      have halternation : alternation own (branch :: branches) =
          wrap "((" own ")" ++ (branch :: branches).flatMap (wrap "|(" · ")") ++ ofString ")" := rfl
      rw [halternation, List.getLast?_append_of_ne_nil _ hne]
      simp [ofString, ofChars]

/-- An enclosed part ends with more than a mark. -/
theorem getLast?_enclose_ne {e : Emission} (h : e.getLast? = some .endMark → e = [.endMark]) :
    (enclose e).getLast? ≠ some .endMark := by
  unfold enclose
  split
  · next hhead =>
      intro hlast
      rw [h hlast] at hhead
      cases hhead
  · exact getLast?_wrap_ne (by decide) e

/-- Closing parentheses lead out of an escape, but not out of a class. -/
theorem pass_closings (escaped inClass : Bool) (k : Nat) :
    pass escaped inClass (List.replicate k ')') = (escaped && k == 0, inClass) := by
  induction k generalizing escaped with
  | zero => simp [Enclosure.pass]
  | succ k ih =>
      have hfirst : pass escaped inClass (List.replicate (k + 1) ')') =
          pass false inClass (List.replicate k ')') := by cases escaped <;> rfl
      rw [hfirst, ih]
      simp

/-- An emission that is accepted alone leads out of every class once it is enclosed, unless it ends
with a backslash in front of a mark. -/
theorem pass_enclose (hpairs : Pairs (resolve e))
    (hlast : e.getLast? = some .endMark → e = [.endMark]) :
    pass false false (enclose e).chars = (false, false) := by
  have hopening : ∀ text, pass false false ('(' :: text) = pass false false text := fun _ => rfl
  have hpass := hpairs.pass_eq
  rcases resolve_cases e with heq | ⟨front, k, he, heq⟩
  · rw [heq] at hpass
    unfold enclose
    split
    · exact hpass
    · rw [chars_wrap]
      show pass false false ('(' :: (e.chars ++ [')'])) = _
      rw [hopening, pass_append, hpass]
      rfl
  · -- The mark is read as an anchor alone, but vanishes in the emission that is enclosed.
    have hdollar : ∀ escaped inClass text,
        pass escaped inClass ('$' :: text) = pass false inClass text := by
      intro escaped inClass text
      cases escaped <;> rfl
    rw [heq, pass_append, hdollar, pass_closings] at hpass
    have hinClass : (pass false false front.chars).2 = false := congrArg Prod.snd hpass
    have hchars : e.chars = front.chars ++ List.replicate k ')' := by rw [he, chars_of_anchored]
    unfold enclose
    split
    · next hhead =>
        have hk : k ≠ 0 := by
          rintro rfl
          rw [hlast (by simp [he, ofChars])] at hhead
          cases hhead
        rw [hchars, pass_append, hinClass, pass_closings]
        simp [hk]
    · rw [chars_wrap, hchars, List.append_assoc, List.append_assoc]
      show pass false false ('(' :: (front.chars ++ (List.replicate k ')' ++ [')']))) = _
      rw [hopening, ← List.replicate_succ', pass_append, hinClass, pass_closings]
      simp

end Emission

/-! ## Graphs -/

/-- If the parts of a kind only end in a mark if they consist of it, so does the kind. -/
theorem FragmentKind.emission_eq_of_getLast? {part : FragmentId → Emission} {kind : FragmentKind}
    (hpart : ∀ next, (part next).getLast? = some .endMark → part next = [.endMark])
    (h : (kind.emission part).getLast? = some .endMark) : kind.emission part = [.endMark] := by
  cases kind with
  | native pattern =>
      have hlast := h
      rw [emission, Emission.ofString, Emission.ofChars, List.getLast?_map] at hlast
      rcases Option.map_eq_some_iff.1 hlast with ⟨c, -, hc⟩
      cases hc
  | composite children =>
      rw [emission, Emission.sequence] at h
      cases children using List.reverseRecOn with
      | nil => cases h
      | append_singleton children last _ =>
          have hne : Emission.enclose (part last) ≠ [] := fun hnil => by
            have hhead := Emission.head?_enclose (part last)
            rw [hnil] at hhead
            cases hhead
          rw [List.map_append, List.flatMap_append, List.map_singleton, List.flatMap_singleton,
            List.getLast?_append_of_ne_nil _ hne] at h
          exact absurd h (Emission.getLast?_enclose_ne (hpart last))
  | upTo ahead ending direction =>
      cases direction with
      | ahead => exact absurd h (Emission.getLast?_wrap_ne (by decide) _)
      | behind => exact absurd h (Emission.getLast?_wrap_ne (by decide) _)
  | expressionEnd => rfl

namespace Graph

variable {g g' : Graph} {id next : FragmentId} {levels : Nat}

/-- Only the end of the expression has an emission that ends in a mark. -/
theorem emission_eq_of_getLast? (h : (g.emission levels id).getLast? = some .endMark) :
    g.emission levels id = [.endMark] := by
  induction levels generalizing id with
  | zero => cases h
  | succ levels ih =>
      rw [emission] at h ⊢
      rcases Modifiers.apply_cases (g.node id).modifiers (Emission.alternation
        ((g.node id).kind.emission (g.emission levels))
        ((g.node id).alternatives.map (g.emission levels))) with
        hnone | ⟨before, inner, after, happly, -, hafter⟩
      · rw [hnone, Modifiers.apply_none] at h ⊢
        cases halternatives : (g.node id).alternatives with
        | nil =>
            rw [halternatives] at h
            exact FragmentKind.emission_eq_of_getLast? (fun next => ih) h
        | cons branch branches =>
            rw [halternatives] at h
            exact absurd h (Emission.getLast?_alternation_ne _ (by simp))
      · rw [happly] at h
        exact absurd h (Emission.getLast?_wrap_ne hafter inner)

/-- A wrapper that is not nested too deep keeps everything below the fragment that it wraps. -/
theorem preserves_of_addWrapper {m : Modifiers}
    (h : (g.addWrapper id m).2.NestsWithin levels (g.addWrapper id m).1) :
    (g.addWrapper id m).2.Preserves g id := by
  have hwrapper := isWrapper_addWrapper g id m
  have hkeeps := keeps_addWrapper g id m
  have hlink : id ∈ ((g.addWrapper id m).2.node (g.addWrapper id m).1).links := by
    rw [Node.links, hwrapper.kind]
    exact List.mem_append_right _ (List.mem_singleton_self id)
  have hsize : (g.addWrapper id m).2.size = g.size + 1 := by
    simp [addWrapper, addComposite, setParent]
  intro other hother
  by_cases hhas : g.Has other
  · have hnode := hkeeps.node other hhas
    exact ⟨hnode.kind.symm, hnode.alternatives.symm, hnode.modifiers.symm, hnode.flags.symm⟩
  · have hne : other ≠ (g.addWrapper id m).1 := by
      rintro rfl
      exact not_reaches_of_nestsWithin h hlink hother
    have hhas' : ¬ (g.addWrapper id m).2.Has other := by
      have hfirst : (g.addWrapper id m).1 = ⟨g.size⟩ := rfl
      obtain ⟨i⟩ := other
      simp only [Has, hsize, hfirst, ne_eq, FragmentId.mk.injEq] at hhas hne ⊢
      omega
    rw [node_of_not_has hhas, node_of_not_has hhas']
    exact ⟨rfl, rfl, rfl, rfl⟩

/-- The flags under which a fragment is matched in a wrapper: the given ones, or those of its
leaves. -/
def flagsWithin (g : Graph) (id : FragmentId) (given : Option Flags) :
    Except CompositionError Flags :=
  match given with
  | some flags => .ok flags.withGlobal
  | none => (fun fs => (Flags.ofList fs).withGlobal) <$> g.leafFlags maxNesting id

namespace IsWrapper

variable {child : FragmentId} {m : Modifiers} {e : Emission}

/-- A wrapper puts its child in parentheses. -/
theorem exists_of_emit (h : g.IsWrapper id child m) (hemit : g.emit (levels + 1) id = .ok e) :
    ∃ inner, g.emit levels child = .ok inner ∧ e = m.apply (Emission.enclose inner) := by
  rw [emit_succ, h.kind, h.alternatives, h.modifiers_eq] at hemit
  rcases exists_of_bind_eq_ok hemit with ⟨own, hown, hemit⟩
  obtain rfl := Except.ok.inj hemit
  rw [FragmentKind.emit, map_eq_pure_bind] at hown
  rcases exists_of_bind_eq_ok hown with ⟨parts, hparts, hown⟩
  obtain rfl := Except.ok.inj hown
  cases forall₂_of_mapM hparts with
  | @cons _ inner _ _ hinner hrest =>
      cases hrest
      exact ⟨inner, hinner, by simp [Emission.alternation, Emission.sequence]⟩

/-- A wrapper is matched under the flags that are given or those of its child. -/
theorem resolveFlags_eq_flagsWithin (h : g.IsWrapper id child m) (given default : Option Flags) :
    g.resolveFlags id given default = g.flagsWithin child (given.or default) := by
  have hleaves : g.leafFlags (maxNesting + 1) id = g.leafFlags maxNesting child := by
    rw [leafFlags_succ, h.kind, h.alternatives, FragmentKind.leafFlags, List.mapM_cons,
      List.mapM_nil]
    cases g.leafFlags maxNesting child with
    | error e => rfl
    | ok fs => exact congrArg Except.ok (by simp)
  rw [resolveFlags, h.flags, Option.or_none, hleaves]
  cases given.or default <;> rfl

end IsWrapper

/-- A wrapper around a fragment is compiled into what its modifiers make of the fragment in
parentheses.  Neither this nor the flags depend on what else the wrapper does. -/
theorem exists_of_regex_addWrapper {m : Modifiers} {given default : Option Flags} {r : Regex}
    (h : (g.addWrapper id m).2.regex (g.addWrapper id m).1 given default = .ok r) :
    ∃ e, g.emit maxNesting id = .ok e ∧ g.flagsWithin id (given.or default) = .ok r.flags ∧
      Regex.compile (String.ofList (Emission.resolve (m.apply (Emission.enclose e)))) r.flags =
        .ok r := by
  have hwrapper := isWrapper_addWrapper g id m
  rcases exists_of_bind_eq_ok h with ⟨source, hsource, h⟩
  rcases exists_of_bind_eq_ok h with ⟨flags, hflags, hcompile⟩
  rw [Graph.source, map_eq_pure_bind] at hsource
  rcases exists_of_bind_eq_ok hsource with ⟨e, hemit, hsource⟩
  obtain rfl := Except.ok.inj hsource
  have hpreserves := preserves_of_addWrapper (nestsWithin_of_emit hemit)
  rcases hwrapper.exists_of_emit hemit with ⟨inner, hinner, rfl⟩
  obtain rfl := (Regex.eq_of_compile hcompile).2
  refine ⟨inner, by rw [hpreserves.emit, hinner], ?_, hcompile⟩
  rw [← hflags, hwrapper.resolveFlags_eq_flagsWithin]
  simp only [flagsWithin, hpreserves.leafFlags]

/-- A fragment that is accepted alone leads out of every class where it is enclosed. -/
theorem pass_of_regex {given default : Option Flags} {r : Regex} {e : Emission}
    (h : g.regex id given default = .ok r) (hemit : g.emit maxNesting id = .ok e) :
    pass false false (Emission.enclose e).chars = (false, false) := by
  have hnests := nestsWithin_of_emit hemit
  obtain rfl := Except.ok.inj (hemit.symm.trans (emit_of_nestsWithin hnests))
  rcases exists_of_bind_eq_ok h with ⟨source, hsource, h⟩
  rcases exists_of_bind_eq_ok h with ⟨flags, -, hcompile⟩
  have hpairs := Pairs.of_compile hcompile
  rw [source_of_nestsWithin (hnests.mono (Nat.le_succ _)),
    emission_of_le hnests (Nat.le_succ _)] at hsource
  obtain rfl := Except.ok.inj hsource
  rw [String.toList_ofList] at hpairs
  exact Emission.pass_enclose hpairs emission_eq_of_getLast?

end Graph

end RegexComposition

import RegexComposition.Proofs.Fragment.Emission
import RegexComposition.Proofs.Fragment.Extension
import RegexComposition.Proofs.Pattern.SingleCharacter

/-!
# Leaves and wrappers

The source of a fragment shows what kind of fragment it is: only a leaf is compiled into a source
for a single character, because everything else is put in parentheses, in a class or behind a dot.
A negated wrapper around such a leaf is a class around its source in parentheses.

Main results:

- `Graph.exists_isLeaf_of_source`: a source for a single character is that of a leaf.
- `Graph.IsLeaf.emit_eq`, `Graph.IsLeaf.resolveFlags_eq`: what a leaf is compiled into.
- `Graph.isWrapper_addWrapper`: a new wrapper.
- `Graph.IsWrapper.source_negated`: the source of a negated wrapper around a leaf.
-/

namespace RegexComposition

/-! ## How an emission starts -/

/-- With modifiers an emission stands in parentheses or in a class. -/
theorem Modifiers.apply_cases (m : Modifiers) (e : Emission) :
    m = Modifiers.none ∨ ∃ before inner after, m.apply e = Emission.wrap before inner after ∧
      (before = "(" ∨ before = "[^") ∧ after ≠ "" := by
  have wrapped : ∀ (condition : Bool) (before after : String) (inner : Emission),
      (before = "(" ∨ before = "[^") → after ≠ "" → condition = true →
        ∃ before' inner' after', (if condition then Emission.wrap before inner after else inner) =
          Emission.wrap before' inner' after' ∧ (before' = "(" ∨ before' = "[^") ∧ after' ≠ "" :=
    fun condition before after inner hbefore hafter hcondition =>
      ⟨before, inner, after, if_pos hcondition, hbefore, hafter⟩
  unfold apply
  dsimp only
  by_cases hoptional : (m.optional && !m.zeroOrMore) = true
  · exact .inr (wrapped _ "(" ")?" _ (.inl rfl) (by decide) hoptional)
  rw [if_neg hoptional]
  by_cases hnegated : m.negated = true
  · exact .inr (wrapped _ "[^" "]" _ (.inr rfl) (by decide) hnegated)
  rw [if_neg hnegated]
  cases hquantifier : m.quantifier with
  | some quantifier => exact .inr ⟨"(", _, _, rfl, .inl rfl, by simp⟩
  | none =>
      by_cases hmany : m.zeroOrMore = true
      · exact .inr (wrapped _ "(" _ _ (.inl rfl) (by split <;> decide) hmany)
      rw [if_neg hmany]
      by_cases hone : m.oneOrMore = true
      · exact .inr (wrapped _ "(" ")+" _ (.inl rfl) (by decide) hone)
      refine .inl ?_
      rcases m with ⟨optional, oneOrMore, zeroOrMore, quantifier, negated⟩
      simp_all [Modifiers.none]

namespace Emission

variable {e : Emission} {text : List Char}

/-- An emission becomes a text with the same first character, or one that starts with an end
anchor. -/
theorem Resolves.head?_cases (h : Resolves e text) :
    text.head? = (Emission.chars e).head? ∨ text.head? = some '$' := by
  induction h with
  | nil => exact .inl rfl
  | char c _ _ => exact .inl rfl
  | anchor _ _ => exact .inr rfl
  | vanish _ ih => exact ih

/-- A composite starts with a parenthesis, unless it has no parts. -/
theorem head?_sequence {parts : List Emission} (h : parts ≠ []) :
    (chars (sequence parts)).head? = some '(' := by
  rcases List.exists_cons_of_ne_nil h with ⟨e, others, rfl⟩
  have henclose : (chars (enclose e)).head? = some '(' := by
    unfold enclose
    split
    · next hhead => exact hhead
    · simp
  rw [sequence, List.flatMap_cons, chars_append]
  rcases List.head?_eq_some_iff.1 henclose with ⟨rest, hrest⟩
  rw [hrest]
  rfl

end Emission

/-- What is no leaf starts with a parenthesis or a dot, or it has no characters. -/
theorem FragmentKind.head?_emission (part : FragmentId → Emission) {kind : FragmentKind}
    (h : ∀ pattern, kind ≠ .native pattern) :
    (Emission.chars (kind.emission part)).head? ∈ [none, some '(', some '.'] := by
  cases kind with
  | native pattern => exact absurd rfl (h pattern)
  | composite children =>
      by_cases hchildren : children.map part = []
      · simp [emission, hchildren, Emission.sequence, Emission.chars]
      · simp [emission, Emission.head?_sequence hchildren]
  | upTo ahead ending direction =>
      cases direction with
      | ahead => simp [emission, Emission.upTo]
      | behind => simp [emission, Emission.upTo]
  | expressionEnd => simp [emission, Emission.chars, Emission.char?]

namespace Token

variable {g : Grammar} {text : List Char} {items : List ClassItem}

/-- A source for one character starts neither with a parenthesis nor with a dot or an end anchor. -/
theorem head?_of_set (h : ofSource g text = [.set items false]) :
    text.head? ∉ [none, some '(', some '.', some '$'] := by
  rcases exists_readAt_of_ofSource h nofun with ⟨c, rest, rfl, hread⟩
  simp only [List.head?_cons, List.mem_cons, List.not_mem_nil, or_false, reduceCtorEq,
    Option.some.injEq, false_or]
  rintro (rfl | rfl | rfl)
  · exact readOpening_ne_set rest (congrArg Prod.fst hread)
  · cases hread
  · cases hread

/-- A class that is complemented is no source for one character. -/
theorem ofSource_caret_ne (g : Grammar) (text : List Char) (items : List ClassItem) :
    ofSource g ('[' :: '^' :: text) ≠ [.set items false] := by
  intro h
  rcases exists_readAt_of_ofSource h nofun with ⟨c, rest, htext, hread⟩
  obtain ⟨rfl, rfl⟩ := List.cons.inj htext
  have hclass : classOf g true text = (.set items false, ('^' :: text).length) := hread
  unfold classOf at hclass
  split at hclass <;> cases hclass

end Token

namespace Graph

variable {g : Graph} {id : FragmentId} {pattern : NativePattern} {source : String}

/-- The node is a leaf without alternatives and modifiers. -/
structure IsLeaf (g : Graph) (id : FragmentId) (pattern : NativePattern) : Prop where
  kind : (g.node id).kind = .native pattern
  alternatives : (g.node id).alternatives = []
  modifiers : (g.node id).modifiers = Modifiers.none

/-- A fragment that is compiled into a source for one character is a leaf. -/
theorem exists_isLeaf_of_source {grammar : Grammar} {items : List ClassItem}
    (h : g.source id = .ok source)
    (hset : Token.ofSource grammar source.toList = [.set items false]) :
    ∃ pattern, g.IsLeaf id pattern ∧ pattern.source = source := by
  rw [Graph.source, map_eq_pure_bind] at h
  rcases exists_of_bind_eq_ok h with ⟨e, hemit, hsource⟩
  have he : e = g.emission (maxNesting + 1) id :=
    Except.ok.inj (hemit.symm.trans (emit_of_nestsWithin (nestsWithin_of_emit hemit)))
  obtain rfl := Except.ok.inj hsource
  have hresolves := Emission.resolves_resolve e
  rw [String.toList_ofList] at hset
  generalize Emission.resolve e = text at hset hresolves
  have hstart : (Emission.chars e).head? ∉ [none, some '(', some '.'] := by
    have hhead := Token.head?_of_set hset
    simp only [List.mem_cons, List.not_mem_nil, or_false, not_or] at hhead ⊢
    rcases hresolves.head?_cases with hsame | hend
    · rw [← hsame]
      exact ⟨hhead.1, hhead.2.1, hhead.2.2.1⟩
    · exact absurd hend hhead.2.2.2
  rw [he, emission] at hresolves hstart
  -- Modifiers and alternatives would show at the begin of the source.
  have hmodifiers : (g.node id).modifiers = Modifiers.none := by
    rcases Modifiers.apply_cases (g.node id).modifiers (Emission.alternation
      ((g.node id).kind.emission (g.emission maxNesting))
      ((g.node id).alternatives.map (g.emission maxNesting))) with
      hnone | ⟨before, inner, after, happly, rfl | rfl, -⟩
    · exact hnone
    · rw [happly] at hstart
      simp at hstart
    · rw [happly] at hresolves
      rcases hresolves.exists_wrap with ⟨between, rfl, -⟩
      exact absurd hset (Token.ofSource_caret_ne _ _ _)
  rw [hmodifiers, Modifiers.apply_none] at hresolves hstart
  have halternatives : (g.node id).alternatives = [] := by
    cases hbranches : (g.node id).alternatives with
    | nil => rfl
    | cons branch branches =>
        rw [hbranches] at hstart
        simp [Emission.alternation] at hstart
  rw [halternatives] at hresolves hstart
  by_cases hleaf : ∃ pattern, (g.node id).kind = .native pattern
  · rcases hleaf with ⟨pattern, hkind⟩
    refine ⟨pattern, ⟨hkind, halternatives, hmodifiers⟩, ?_⟩
    rw [hkind] at hresolves
    rw [Emission.Resolves.eq_of_ofChars hresolves, String.ofList_toList]
  · exact absurd (FragmentKind.head?_emission (g.emission maxNesting)
      fun pattern hkind => hleaf ⟨pattern, hkind⟩) hstart

namespace IsLeaf

variable {g' : Graph}

/-- A node that does not exist is no leaf. -/
theorem index_lt (h : g.IsLeaf id pattern) : id.index < g.size := by
  by_contra hlt
  have hdefault : g.node id = default := by
    simp only [size] at hlt
    simp [node, hlt]
  have hkind := h.kind
  rw [hdefault] at hkind
  cases hkind

theorem of_keeps (h : g.IsLeaf id pattern) (hkeeps : g.Keeps g') : g'.IsLeaf id pattern := by
  have hnode := hkeeps.node id h.index_lt
  exact ⟨hnode.kind.trans h.kind, hnode.alternatives.trans h.alternatives,
    hnode.modifiers.trans h.modifiers⟩

theorem emit_eq (h : g.IsLeaf id pattern) (levels : Nat) :
    g.emit (levels + 1) id = .ok (Emission.ofString pattern.source) := by
  rw [emit_succ, h.kind, h.alternatives, h.modifiers]
  simp only [Modifiers.apply_none]
  rfl

theorem leafFlags_eq (h : g.IsLeaf id pattern) (levels : Nat) :
    g.leafFlags (levels + 1) id = .ok pattern.flags.toList := by
  simp only [leafFlags, h.kind, h.alternatives, List.mapM_nil]
  exact congrArg Except.ok (List.append_nil _)

/-- The flags of a leaf are the given ones, those set on it, the default ones or those of its
pattern. -/
theorem resolveFlags_eq (h : g.IsLeaf id pattern) (given default : Option Flags) :
    g.resolveFlags id given default =
      .ok ((((given.or (g.node id).flags).or default).getD
        (Flags.ofList pattern.flags.toList)).withGlobal) := by
  rw [resolveFlags, h.leafFlags_eq]
  cases (given.or (g.node id).flags).or default <;> rfl

end IsLeaf

/-- A wrapper has its child and the modifiers, and the other nodes stay what they are. -/
theorem keeps_addWrapper (g : Graph) (child : FragmentId) (modifiers : Modifiers) :
    g.Keeps (g.addWrapper child modifiers).2 := by
  have hkeeps := keeps_addComposite g [child]
  refine ⟨by simpa [addWrapper] using hkeeps.size_le, fun id hid => ?_⟩
  have hne : id ≠ (g.addComposite [child]).1 := by
    rintro rfl
    exact Nat.lt_irrefl _ hid
  have hsame : (g.addWrapper child modifiers).2.node id = (g.addComposite [child]).2.node id :=
    node_modify_of_ne hne
  rw [hsame]
  exact hkeeps.node id hid

/-- The node wraps another one, with modifiers of its own. -/
structure IsWrapper (g : Graph) (id child : FragmentId) (modifiers : Modifiers) : Prop where
  kind : (g.node id).kind = .composite [child]
  alternatives : (g.node id).alternatives = []
  modifiers_eq : (g.node id).modifiers = modifiers
  flags : (g.node id).flags = none

theorem isWrapper_addWrapper (g : Graph) (child : FragmentId) (modifiers : Modifiers) :
    (g.addWrapper child modifiers).2.IsWrapper (g.addWrapper child modifiers).1 child modifiers := by
  have hplain := isPlain_addComposite g [child]
  have hnode : (g.addWrapper child modifiers).2.node (g.addWrapper child modifiers).1 =
      { (g.addComposite [child]).2.node (g.addComposite [child]).1 with modifiers := modifiers } :=
    node_modify_self (has_addComposite_self g [child]) _
  refine ⟨?_, ?_, ?_, ?_⟩
  · rw [hnode]
    exact hplain.kind_eq
  · rw [hnode]
    exact hplain.alternatives_eq
  · rw [hnode]
  · rw [hnode]
    exact hplain.flags_eq

namespace IsWrapper

variable {child : FragmentId}

/-- A negated wrapper around a leaf is a class around its source in parentheses. -/
theorem source_negated (h : g.IsWrapper id child Suffix.negation.modifiers)
    (hchild : g.IsLeaf child pattern) (hhead : pattern.source.toList.head? ≠ some '(') :
    g.source id = .ok (Regex.negatedSource pattern.source) := by
  have hsequence : Emission.sequence [Emission.ofString pattern.source] =
      Emission.wrap "(" (Emission.ofString pattern.source) ")" := by
    rw [Emission.sequence, List.flatMap_singleton, Emission.enclose, if_neg]
    rwa [Emission.ofString, Emission.chars_ofChars]
  have hemit : g.emit (maxNesting + 1) id =
      .ok (Emission.ofString (Regex.negatedSource pattern.source)) := by
    have hchildren : [child].mapM (g.emit maxNesting) =
        .ok [Emission.ofString pattern.source] := mapM_of_forall₂ (.cons (hchild.emit_eq _) .nil)
    have hown : (FragmentKind.composite [child]).emit (g.emit maxNesting) =
        .ok (Emission.wrap "(" (Emission.ofString pattern.source) ")") := by
      rw [FragmentKind.emit, hchildren, ← hsequence]
      rfl
    rw [emit_succ, h.kind, h.alternatives, h.modifiers_eq, hown]
    refine congrArg Except.ok ?_
    simp [Suffix.modifiers, Modifiers.apply, Emission.alternation, Emission.wrap,
      Emission.ofString, Emission.ofChars, Regex.negatedSource]
  have hresolve : Emission.resolve (Emission.ofString (Regex.negatedSource pattern.source)) =
      (Regex.negatedSource pattern.source).toList :=
    (Emission.resolves_resolve _).eq_of_ofChars
  rw [Graph.source, hemit]
  refine congrArg Except.ok ?_
  show String.ofList (Emission.resolve _) = _
  rw [hresolve, String.ofList_toList]

/-- The flags of a negated leaf are the given ones or those of the leaf. -/
theorem resolveFlags_eq {modifiers : Modifiers} (h : g.IsWrapper id child modifiers)
    (hchild : g.IsLeaf child pattern) (given default : Option Flags) :
    g.resolveFlags id given default = .ok
      (((given.or default).getD (Flags.ofList pattern.flags.toList)).withGlobal) := by
  have hleaves : g.leafFlags (maxNesting + 1) id = .ok pattern.flags.toList := by
    have hchildren : [child].mapM (g.leafFlags maxNesting) = .ok [pattern.flags.toList] :=
      mapM_of_forall₂ (.cons (hchild.leafFlags_eq _) .nil)
    simp only [leafFlags, h.kind, h.alternatives, List.mapM_nil, hchildren]
    exact congrArg Except.ok (by simp)
  rw [resolveFlags, h.flags, Option.or_none, hleaves]
  cases given.or default <;> rfl

end IsWrapper

end Graph

end RegexComposition

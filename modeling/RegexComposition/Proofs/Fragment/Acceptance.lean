import RegexComposition.Proofs.Fragment.Emission
import RegexComposition.Proofs.Fragment.Nesting
import RegexComposition.Proofs.Pattern.Embedding
import RegexComposition.Proofs.Pattern.Quantifier

/-!
# Acceptance of compositions

A fragment is compiled into a source that is accepted as soon as its leaves are accepted one by
one.

Main results:

- `Graph.Composable`: what is asked of the nodes of a fragment.
- `Graph.compile_source`: the source of a composable fragment is accepted.
-/

namespace RegexComposition

namespace Emission.Fills

variable {modes : Modes} {R : Frame → Frame → Prop} {e : Emission}

/-- Modifiers do to a part what repetitions do. -/
theorem apply_of_repeats {m : Modifiers} (h : Fills modes R e)
    (hrepeats : ∀ q f f', q.isPossible = true → Repeats modes q R f f' → R f f')
    (hnegated : m.negated = false)
    (hquantifier : ∀ spelled ∈ m.quantifier, ∃ q, QuantifierSpelling spelled.toList q) :
    Fills modes R (m.apply e) := by
  have hrepeated : ∀ {e : Emission} {after : String} {spelled : List Char} {q : Quantifier},
      Fills modes R e → after.toList = ')' :: spelled → QuantifierSpelling spelled q →
        Fills modes R (Emission.wrap "(" e after) := fun he hafter hq =>
    (he.quantified hafter hq.readsAs.1 hq.readsAs.2).mono fun f f' =>
      hrepeats _ f f' hq.readsAs.2
  unfold Modifiers.apply
  dsimp only
  rw [hnegated, if_neg Bool.false_ne_true]
  have honce : Fills modes R (if m.oneOrMore then Emission.wrap "(" e ")+" else e) := by
    split
    · exact hrepeated h rfl (.greedy .plus)
    · exact h
  generalize (if m.oneOrMore then Emission.wrap "(" e ")+" else e) = once at honce ⊢
  have hmany : Fills modes R
      (if m.zeroOrMore then Emission.wrap "(" once (if m.optional then ")*?" else ")*")
        else once) := by
    split
    · split
      · exact hrepeated honce rfl (.lazy .star)
      · exact hrepeated honce rfl (.greedy .star)
    · exact honce
  generalize (if m.zeroOrMore then Emission.wrap "(" once (if m.optional then ")*?" else ")*")
    else once) = many at hmany ⊢
  have hfinish : ∀ {e : Emission}, Fills modes R e →
      Fills modes R (if m.optional && !m.zeroOrMore then Emission.wrap "(" e ")?" else e) := by
    intro e he
    split
    · exact hrepeated he rfl (.greedy .optional)
    · exact he
  refine hfinish ?_
  split
  · next spelled heq =>
      rcases hquantifier spelled heq with ⟨q, hq⟩
      exact hrepeated hmany (by simp) hq
  · exact hmany

/-- A part that fits everywhere still does so with modifiers. -/
theorem apply {m : Modifiers} (h : Fills modes (fun _ _ => True) e) (hnegated : m.negated = false)
    (hquantifier : ∀ spelled ∈ m.quantifier, ∃ q, QuantifierSpelling spelled.toList q) :
    Fills modes (fun _ _ => True) (m.apply e) :=
  h.apply_of_repeats (fun _ _ _ _ _ => trivial) hnegated hquantifier

end Emission.Fills

namespace Graph

variable {g : Graph} {levels : Nat} {id root : FragmentId}

/-- What is asked of a node: a pattern is accepted on its own and has no named groups, the end of
a forward reference is the end mark, the node is not negated, and its quantifier is one. -/
structure Composable (g : Graph) (flags : Flags) (id : FragmentId) : Prop where
  native : ∀ pattern, (g.node id).kind = .native pattern →
    ∃ r, Regex.compile pattern.source flags = .ok r ∧ ∀ name ∈ r.program.groups, name = none
  ending : ∀ ahead ending direction, (g.node id).kind = .upTo ahead ending direction →
    (g.node ending).kind = .expressionEnd
  negated : (g.node id).modifiers.negated = false
  quantifier : ∀ spelled ∈ (g.node id).modifiers.quantifier,
    ∃ q, QuantifierSpelling spelled.toList q

/-- The emission of an end mark stops every reader, with alternatives and modifiers as well. -/
theorem stopping_emission_of_kind (hkind : (g.node id).kind = .expressionEnd)
    (hnegated : (g.node id).modifiers.negated = false) :
    Emission.Stopping (g.emission levels id) := by
  cases levels with
  | zero => exact Emission.Stopping.nil
  | succ levels =>
      rw [emission, hkind]
      exact (Emission.Stopping.endMark.alternation _).apply hnegated

/-- The own part of a node fits everywhere if the parts below it do. -/
theorem fills_ownEmission {flags : Flags} (hnode : g.Composable flags id)
    (hending : ∀ next ∈ (g.node id).kind.parts, (g.node next).modifiers.negated = false)
    (hparts : ∀ next ∈ (g.node id).kind.parts,
      Emission.Fills (Modes.ofFlags flags) (fun _ _ => True) (g.emission levels next)) :
    Emission.Fills (Modes.ofFlags flags) (fun _ _ => True)
      ((g.node id).kind.emission (g.emission levels)) := by
  cases hkind : (g.node id).kind with
  | native pattern =>
      rcases hnode.native pattern hkind with ⟨r, hr, hnames⟩
      exact Emission.Fills.ofChars (Fits.of_compile hr hnames)
  | composite children =>
      rw [hkind] at hparts
      exact (Emission.Fills.sequence (T := fun _ _ _ => True) hparts (fun _ _ _ h => h)
        (fun _ _ _ _ => trivial) (fun _ => trivial) fun _ _ _ _ _ _ _ => trivial).1
  | upTo ahead ending direction =>
      rw [hkind] at hparts hending
      have hahead := hparts ahead (by simp [FragmentKind.parts])
      have hend := hparts ending (by simp [FragmentKind.parts])
      have hstops : Emission.Stopping (g.emission levels ending) :=
        stopping_emission_of_kind (hnode.ending ahead ending direction hkind)
          (hending ending (by simp [FragmentKind.parts]))
      exact Emission.Fills.upTo direction hahead hend hstops
  | expressionEnd =>
      refine ⟨0, fun text htext => ?_⟩
      cases htext with
      | anchor hrest =>
          cases hrest
          exact Fits.lineEnd.mono fun _ _ _ => trivial
      | vanish hrest =>
          cases hrest
          exact Fits.nil fun _ => trivial

/-- The emission of a fragment fits everywhere. -/
theorem fills_emission {flags : Flags} (hnests : g.NestsWithin levels id)
    (hbelow : ∀ next, g.Reaches id next → g.Composable flags next) :
    Emission.Fills (Modes.ofFlags flags) (fun _ _ => True) (g.emission levels id) := by
  induction levels generalizing id with
  | zero => exact hnests.elim
  | succ levels ih =>
      have hlinks : ∀ next ∈ (g.node id).links,
          Emission.Fills (Modes.ofFlags flags) (fun _ _ => True) (g.emission levels next) := by
        intro next hnext
        exact ih (hnests next hnext) fun last hlast =>
          hbelow last (Relation.ReflTransGen.head hnext hlast)
      have hnode := hbelow id Relation.ReflTransGen.refl
      have hown := fills_ownEmission hnode
        (fun next hnext => (hbelow next (Relation.ReflTransGen.single
          (List.mem_append_right _ hnext))).negated)
        fun next hnext => hlinks next (List.mem_append_right _ hnext)
      rw [emission]
      refine Emission.Fills.apply ?_ hnode.negated hnode.quantifier
      by_cases halternatives : (g.node id).alternatives = []
      · rw [halternatives]
        exact hown
      · have hbranches : ∀ next ∈ (g.node id).alternatives,
            Emission.Fills (Modes.ofFlags flags) (fun _ _ => True) (g.emission levels next) :=
          fun next hnext => hlinks next (List.mem_append_left _ hnext)
        have halternation := Emission.Fills.alternation (T := fun _ _ _ => True) hown hbranches
          (fun _ => trivial) (fun _ _ _ _ _ _ _ => trivial) halternatives
        exact halternation.mono fun _ _ _ => trivial

/-- The source of a fragment is accepted if its patterns are accepted one by one. -/
theorem compile_source {flags : Flags} (hnests : g.NestsWithin (maxNesting + 1) root)
    (hbelow : ∀ id, g.Reaches root id → g.Composable flags id) :
    ∃ source r, g.source root = .ok source ∧ Regex.compile source flags = .ok r := by
  rcases fills_emission hnests hbelow with ⟨n, hfits⟩
  rcases (hfits _ (Emission.resolves_resolve _)).compile with ⟨r, _, hcompile, _⟩
  exact ⟨_, r, source_of_nestsWithin hnests, hcompile⟩

/-- A fragment with a node of every kind. -/
def specimen : Graph := ⟨#[
  { kind := .native (.ofSource "a|b") },
  { kind := .native (.ofSource "(\\d)"), alternatives := [⟨0⟩] },
  { kind := .expressionEnd },
  { kind := .upTo ⟨1⟩ ⟨2⟩ .ahead, modifiers := { oneOrMore := true } },
  { kind := .composite [⟨0⟩, ⟨1⟩, ⟨3⟩],
    modifiers := { optional := true, quantifier := some "\x7b2\x7d" } }]⟩

theorem compile_source_specimen : ∃ source r,
    specimen.source ⟨4⟩ = .ok source ∧ Regex.compile source ∅ = .ok r := by
  have holder : ∀ i ≤ 4, ∀ next ∈ (specimen.node ⟨i⟩).links, next.index < i := by decide
  refine compile_source (nestsWithin_of_older holder (by decide)) fun id hid => ?_
  have hindex : id.index ≤ 4 := index_le_of_reaches holder hid
  rcases id with ⟨_ | _ | _ | _ | _ | i⟩
  · exact ⟨fun pattern hp => FragmentKind.native.inj hp ▸ ⟨_, rfl, by decide⟩, nofun, rfl, nofun⟩
  · exact ⟨fun pattern hp => FragmentKind.native.inj hp ▸ ⟨_, rfl, by decide⟩, nofun, rfl, nofun⟩
  · exact ⟨nofun, nofun, rfl, nofun⟩
  · refine ⟨nofun, fun ahead ending direction hkind => ?_, rfl, nofun⟩
    obtain rfl := (FragmentKind.upTo.inj hkind).2.1
    rfl
  · refine ⟨nofun, nofun, rfl, fun spelled hspelled => ?_⟩
    obtain rfl : "\x7b2\x7d" = spelled := Option.some.inj hspelled
    exact ⟨_, .greedy (.exactly (d := ['2']) ⟨by simp, by simp⟩)⟩
  · exact absurd hindex (by simp)

end Graph

end RegexComposition

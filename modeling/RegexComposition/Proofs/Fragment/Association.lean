import RegexComposition.Proofs.Fragment.Leaf
import RegexComposition.Proofs.Fragment.Resemblance

/-!
# Composites of composites

A composite with children starts with a parenthesis, whatever the children are; marks that are
pending in front of it count as nothing.  So it is not enclosed once more where it is a child
itself, and it does not matter how the children of a composite are grouped.

Main results:

- `Emission.sequence_nested`: a sequence among the parts of a sequence can be taken apart.
- `Graph.nestsWithin_addComposite`, `Graph.emission_addComposite`: new composites.
- `Graph.source_addNested`: a composite with a composite among its children has the same source as
  the one with all the children.
-/

namespace RegexComposition

namespace Emission

/-- A sequence among the parts of a sequence can be taken apart, unless it is empty. -/
theorem sequence_nested {ys : List Emission} (hys : ys ≠ []) (xs zs : List Emission) :
    sequence (xs ++ sequence ys :: zs) = sequence (xs ++ ys ++ zs) := by
  have henclose : enclose (sequence ys) = sequence ys := if_pos (head?_sequence hys)
  calc sequence (xs ++ sequence ys :: zs)
      = sequence xs ++ (enclose (sequence ys) ++ sequence zs) := by
        simp only [sequence, List.flatMap_append, List.flatMap_cons]
    _ = sequence xs ++ (sequence ys ++ sequence zs) := by rw [henclose]
    _ = sequence (xs ++ ys ++ zs) := by
        simp only [sequence, List.flatMap_append, List.append_assoc]

end Emission

namespace Graph

variable {g : Graph} {ids xs ys zs : List FragmentId} {levels : Nat}

/-! ## New composites -/

/-- A new composite changes no fragment that was there before. -/
theorem preserves_addComposite (hg : g.IsClosed) {id : FragmentId} (hid : g.Has id)
    (ids : List FragmentId) : g.Preserves (g.addComposite ids).2 id :=
  (keeps_addComposite g ids).preserves hg hid

/-- A new composite has one level more than its children. -/
theorem nestsWithin_addComposite (hg : g.IsClosed) (hids : ∀ id ∈ ids, g.Has id) :
    (g.addComposite ids).2.NestsWithin (levels + 1) (g.addComposite ids).1 ↔
      ∀ id ∈ ids, g.NestsWithin levels id := by
  rw [NestsWithin, (isPlain_addComposite g ids).links_eq]
  exact forall₂_congr fun id hid => (preserves_addComposite hg (hids id hid) ids).nestsWithin_iff

/-- A new composite is compiled into the sequence of what its children are compiled into. -/
theorem emission_addComposite (hg : g.IsClosed) (hids : ∀ id ∈ ids, g.Has id)
    (hnests : ∀ id ∈ ids, g.NestsWithin levels id) :
    (g.addComposite ids).2.emission (levels + 1) (g.addComposite ids).1 =
      Emission.sequence (ids.map (g.emission levels)) := by
  rw [(isPlain_addComposite g ids).emission, FragmentKind.emission]
  refine congrArg Emission.sequence (List.map_congr_left fun id hid => ?_)
  have hpreserves := preserves_addComposite hg (hids id hid) ids
  exact (hpreserves.emission (hpreserves.nestsWithin_iff.2 (hnests id hid))).1

/-! ## Composites among children -/

/-- The composite of some fragments, the composite of others, and some more, in this order. -/
def addNested (g : Graph) (xs ys zs : List FragmentId) : FragmentId × Graph :=
  let (inner, g) := g.addComposite ys
  g.addComposite (xs ++ inner :: zs)

/-- The depth of the outer composite, and what it is compiled into. -/
theorem emission_addNested (hg : g.IsClosed) (hids : ∀ id ∈ xs ++ ys ++ zs, g.Has id)
    (hnests : (g.addNested xs ys zs).2.NestsWithin (levels + 2) (g.addNested xs ys zs).1) :
    (∀ id ∈ xs ++ zs, g.NestsWithin (levels + 1) id) ∧ (∀ id ∈ ys, g.NestsWithin levels id) ∧
      (g.addNested xs ys zs).2.emission (levels + 2) (g.addNested xs ys zs).1 =
        Emission.sequence (xs.map (g.emission (levels + 1)) ++
          Emission.sequence (ys.map (g.emission levels)) :: zs.map (g.emission (levels + 1))) := by
  have hxz : ∀ id ∈ xs ++ zs, g.Has id := fun id hid => hids id (by grind)
  have hy : ∀ id ∈ ys, g.Has id := fun id hid => hids id (by grind)
  have hclosed : (g.addComposite ys).2.IsClosed := isClosed_addComposite hg hy
  have hhas : ∀ id ∈ xs ++ (g.addComposite ys).1 :: zs, (g.addComposite ys).2.Has id := by
    intro id hid
    by_cases hinner : id = (g.addComposite ys).1
    · exact hinner ▸ has_addComposite_self g ys
    · exact (extends_addComposite g ys).has (hxz id (by grind))
  have hchildren := (nestsWithin_addComposite hclosed hhas).1 hnests
  have hinner : ∀ id ∈ ys, g.NestsWithin levels id :=
    (nestsWithin_addComposite hg hy).1 (hchildren _ (by simp))
  have hpreserves : ∀ id ∈ xs ++ zs, g.Preserves (g.addComposite ys).2 id :=
    fun id hid => preserves_addComposite hg (hxz id hid) ys
  have hsame : ∀ id ∈ xs ++ zs,
      (g.addComposite ys).2.emission (levels + 1) id = g.emission (levels + 1) id :=
    fun id hid => ((hpreserves id hid).emission (hchildren id (by grind))).1
  refine ⟨fun id hid => (hpreserves id hid).nestsWithin_iff.1 (hchildren id (by grind)), hinner, ?_⟩
  rw [addNested, emission_addComposite hclosed hhas hchildren, List.map_append, List.map_cons,
    emission_addComposite hg hy hinner,
    List.map_congr_left fun id hid => hsame id (List.mem_append_left _ hid),
    List.map_congr_left fun id hid => hsame id (List.mem_append_right _ hid)]

/-- A composite among the children of a composite can be replaced by its own children.

Let the inner composite have a child, and let the outer one be nested no deeper than the limit
allows.  Then the composite of all the children is not nested too deep either, and both have the
same emission, marks for the end of the expression included, and the same source. -/
theorem source_addNested (hg : g.IsClosed) (hids : ∀ id ∈ xs ++ ys ++ zs, g.Has id) (hys : ys ≠ [])
    (hnests : (g.addNested xs ys zs).2.NestsWithin (maxNesting + 1) (g.addNested xs ys zs).1) :
    let nested := g.addNested xs ys zs
    let flat := g.addComposite (xs ++ ys ++ zs)
    ∃ e, nested.2.emit (maxNesting + 1) nested.1 = .ok e ∧
      flat.2.emit (maxNesting + 1) flat.1 = .ok e ∧
      nested.2.source nested.1 = .ok (String.ofList e.resolve) ∧
      flat.2.source flat.1 = .ok (String.ofList e.resolve) := by
  intro nested flat
  obtain ⟨houter, hinner, hemission⟩ :=
    @emission_addNested g xs ys zs (maxNesting - 1) hg hids hnests
  have hall : ∀ id ∈ xs ++ ys ++ zs, g.NestsWithin maxNesting id := by
    intro id hid
    by_cases hy : id ∈ ys
    · exact (hinner id hy).mono (by decide)
    · exact houter id (by grind)
  have hflat : flat.2.NestsWithin (maxNesting + 1) flat.1 :=
    (nestsWithin_addComposite hg hids).2 hall
  have hparts : ys.map (g.emission maxNesting) = ys.map (g.emission (maxNesting - 1)) :=
    List.map_congr_left fun id hid => emission_of_le (hinner id hid) (by decide)
  have hsame : nested.2.emission (maxNesting + 1) nested.1 =
      flat.2.emission (maxNesting + 1) flat.1 := by
    calc nested.2.emission (maxNesting + 1) nested.1
        = Emission.sequence (xs.map (g.emission maxNesting) ++
            Emission.sequence (ys.map (g.emission (maxNesting - 1))) ::
              zs.map (g.emission maxNesting)) := hemission
      _ = Emission.sequence (xs.map (g.emission maxNesting) ++
            ys.map (g.emission (maxNesting - 1)) ++ zs.map (g.emission maxNesting)) :=
          Emission.sequence_nested (by simpa using hys) _ _
      _ = Emission.sequence ((xs ++ ys ++ zs).map (g.emission maxNesting)) := by
          rw [List.map_append, List.map_append, hparts]
      _ = flat.2.emission (maxNesting + 1) flat.1 := (emission_addComposite hg hids hall).symm
  refine ⟨nested.2.emission (maxNesting + 1) nested.1, emit_of_nestsWithin hnests, ?_,
    source_of_nestsWithin hnests, ?_⟩
  · rw [hsame]
    exact emit_of_nestsWithin hflat
  · rw [hsame]
    exact source_of_nestsWithin hflat

/-- A pattern, an optional pattern that has it as an alternative, and a forward reference to it. -/
def referring : Graph := ⟨#[
  { kind := .native (.ofSource "c") },
  { kind := .native (.ofSource "a|b"), alternatives := [⟨0⟩], modifiers := { optional := true } },
  { kind := .expressionEnd },
  { kind := .upTo ⟨0⟩ ⟨2⟩ .ahead }]⟩

theorem source_addNested_referring :
    let nested := referring.addNested [⟨1⟩] [⟨0⟩, ⟨3⟩] []
    let flat := referring.addComposite [⟨1⟩, ⟨0⟩, ⟨3⟩]
    (∃ e, Symbol.endMark ∈ e ∧ nested.2.emit (maxNesting + 1) nested.1 = .ok e ∧
      flat.2.emit (maxNesting + 1) flat.1 = .ok e) ∧
    nested.2.source nested.1 = .ok "(((a|b)|(c)))?(c)(.*?(?=c$))" ∧
    flat.2.source flat.1 = .ok "(((a|b)|(c)))?(c)(.*?(?=c$))" := by
  intro nested flat
  have hclosed : referring.IsClosed := by decide +kernel
  have hsource : nested.2.source nested.1 = .ok "(((a|b)|(c)))?(c)(.*?(?=c$))" := by
    decide +kernel
  have hnests : nested.2.NestsWithin (maxNesting + 1) nested.1 :=
    nestsWithin_of_older (by decide +kernel) (by decide +kernel)
  obtain ⟨e, hnested, hflat, hnestedSource, hflatSource⟩ :=
    @source_addNested referring [⟨1⟩] [⟨0⟩, ⟨3⟩] [] hclosed (by decide) (by simp) hnests
  refine ⟨⟨e, ?_, hnested, hflat⟩, hsource, hflatSource.trans (hnestedSource.symm.trans hsource)⟩
  obtain rfl := Except.ok.inj hnested
  decide +kernel

end Graph

end RegexComposition

import RegexComposition.Proofs.Flags.Insertion
import RegexComposition.Proofs.Fragment.Nesting

/-!
# The flags of the leaves

A fragment without flags of its own has the flags of its leaves.  Below a forward reference, and
where a node is shared, leaves are visited several times; each flag counts where it comes first.

Main results:

- `Graph.leaves`: the leaves of a fragment in the order of a depth-first search.
- `Graph.leafFlags_eq`: the search for flags collects those of the leaves.
- `Graph.exists_resolveFlags_eq`: the flags of a fragment without flags of its own.
-/

namespace RegexComposition

/-! ## Leaves -/

/-- The flags of patterns, one pattern after the other. -/
def NativePattern.flagsOf (patterns : List NativePattern) : List Flag :=
  patterns.flatMap (·.flags.toList)

theorem NativePattern.flagsOf_append (first later : List NativePattern) :
    flagsOf (first ++ later) = flagsOf first ++ flagsOf later :=
  List.flatMap_append

/-- The leaves of the parts of a kind; the end of a forward reference has none. -/
def FragmentKind.leaves (part : FragmentId → List NativePattern) :
    FragmentKind → List NativePattern
  | native pattern => [pattern]
  | composite children => children.flatMap part
  | upTo ahead _ _ => part ahead
  | expressionEnd => []

/-- Parts that have the flags of their leaves have them together. -/
theorem exists_mapM_leafFlags_eq {search : FragmentId → Except CompositionError (List Flag)}
    {part : FragmentId → List NativePattern} {ids : List FragmentId}
    (h : ∀ id ∈ ids, search id = .ok (NativePattern.flagsOf (part id))) :
    ∃ fss, ids.mapM search = .ok fss ∧
      fss.flatten = NativePattern.flagsOf (ids.flatMap part) := by
  refine ⟨ids.map fun id => NativePattern.flagsOf (part id), ?_, ?_⟩
  · exact mapM_of_forall₂ (List.forall₂_map_right_iff.2 (List.forall₂_same.2 h))
  · rw [NativePattern.flagsOf, List.flatMap_assoc, List.flatMap_def]
    rfl

/-- The search for flags collects the flags of the leaves of a kind. -/
theorem FragmentKind.leafFlags_eq {search : FragmentId → Except CompositionError (List Flag)}
    {part : FragmentId → List NativePattern} {kind : FragmentKind}
    (h : ∀ id ∈ kind.parts, search id = .ok (NativePattern.flagsOf (part id))) :
    kind.leafFlags search = .ok (NativePattern.flagsOf (kind.leaves part)) := by
  cases kind with
  | native pattern => exact congrArg Except.ok (List.append_nil _).symm
  | composite children =>
      rcases exists_mapM_leafFlags_eq h with ⟨fss, hfss, hflatten⟩
      rw [parts] at hfss hflatten
      rw [leafFlags, leaves, ← hflatten, hfss]
      rfl
  | upTo ahead ending direction => exact h ahead List.mem_cons_self
  | expressionEnd => rfl

namespace Graph

variable {g : Graph} {levels : Nat} {id : FragmentId}

/-- The patterns in the leaves of a fragment, in the order of a depth-first search: those below the
node, or below what it refers to, come before those of its alternatives.  What lies below the given
number of levels is left out. -/
def leaves (g : Graph) : (levels : Nat) → FragmentId → List NativePattern
  | 0, _ => []
  | levels + 1, id =>
    (g.node id).kind.leaves (g.leaves levels) ++
      (g.node id).alternatives.flatMap (g.leaves levels)

/-- The search for flags collects those of the leaves. -/
theorem leafFlags_eq (h : g.NestsWithin levels id) :
    g.leafFlags levels id = .ok (NativePattern.flagsOf (g.leaves levels id)) := by
  induction levels generalizing id with
  | zero => exact h.elim
  | succ levels ih =>
      have hown : (g.node id).kind.leafFlags (g.leafFlags levels) =
          .ok (NativePattern.flagsOf ((g.node id).kind.leaves (g.leaves levels))) :=
        FragmentKind.leafFlags_eq fun next hnext => ih (h next (List.mem_append_right _ hnext))
      rcases @exists_mapM_leafFlags_eq (g.leafFlags levels) _ _ fun next hnext =>
        ih (h next (List.mem_append_left _ hnext)) with ⟨fss, hfss, hflatten⟩
      rw [leafFlags_succ, hown, hfss, leaves, NativePattern.flagsOf_append, ← hflatten]
      rfl

/-- The flags of a fragment without flags of its own: each flag of its leaves where it comes first,
and the global flag in front of them if it is not among them. -/
theorem exists_resolveFlags_eq (h : g.NestsWithin (maxNesting + 1) id)
    (hflags : (g.node id).flags = none) : ∃ flags, g.resolveFlags id none none = .ok flags ∧
      flags.toList =
        let fs := (NativePattern.flagsOf (g.leaves (maxNesting + 1) id)).eraseDups
        if .global ∈ fs then fs else .global :: fs := by
  refine ⟨(Flags.ofList (NativePattern.flagsOf (g.leaves (maxNesting + 1) id))).withGlobal, ?_, ?_⟩
  · rw [resolveFlags, hflags, leafFlags_eq h]
    rfl
  · rw [Flags.toList_withGlobal, Flags.toList_ofList]

end Graph

end RegexComposition

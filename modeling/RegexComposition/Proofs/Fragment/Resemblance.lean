import RegexComposition.Proofs.Fragment.Additions
import RegexComposition.Proofs.Fragment.Reachability

/-!
# Fragments in other graphs

What a fragment is compiled into depends only on the nodes that can be reached from it.  Their
parents, their registries and whether they are skipped do not matter.

Main results:

- `Graph.Preserves`: the nodes below a fragment are compiled alike in another graph.
- `Graph.Preserves.reaches_iff`: the same nodes are below the fragment there.
- `Graph.Preserves.emission`, `Graph.Preserves.nestsWithin_iff`: it has the same emission and depth
  there.
- `Graph.Preserves.source`, `Graph.Preserves.resolveFlags`: it has the same source and flags there.
-/

namespace RegexComposition

namespace Graph

variable {g g' : Graph} {root id next : FragmentId}

/-- Every node that can be reached from the root is compiled alike in the second graph. -/
def Preserves (g g' : Graph) (root : FragmentId) : Prop :=
  ∀ id, g.Reaches root id → (g.node id).Resembles (g'.node id)

/-- A graph keeps every fragment if it keeps every node. -/
theorem Keeps.preserves (h : g.Keeps g') (hg : g.IsClosed) (hroot : g.Has root) :
    g.Preserves g' root :=
  fun id hid => h.node id (has_of_reaches hg hroot hid)

/-- Values that are computed alike one by one are computed alike together. -/
theorem mapM_congr {ε α β : Type} {f f' : α → Except ε β} {as : List α}
    (h : ∀ a ∈ as, f' a = f a) : as.mapM f' = as.mapM f := by
  induction as with
  | nil => rfl
  | cons a as ih =>
      rw [List.mapM_cons, List.mapM_cons, h a List.mem_cons_self,
        ih fun a' ha' => h a' (List.mem_cons_of_mem a ha')]

namespace Preserves

/-- What lies below a node is kept, too. -/
theorem of_link (h : g.Preserves g' root) (hnext : next ∈ (g.node root).links) :
    g.Preserves g' next :=
  fun id hid => h id (Relation.ReflTransGen.head hnext hid)

/-- The root itself is kept. -/
theorem resembles (h : g.Preserves g' root) : (g.node root).Resembles (g'.node root) :=
  h root Relation.ReflTransGen.refl

theorem alternative (h : g.Preserves g' root) (hnext : next ∈ (g.node root).alternatives) :
    g.Preserves g' next :=
  h.of_link (List.mem_append_left _ hnext)

theorem part (h : g.Preserves g' root) (hnext : next ∈ (g.node root).kind.parts) :
    g.Preserves g' next :=
  h.of_link (List.mem_append_right _ hnext)

theorem reaches_iff (h : g.Preserves g' root) : g'.Reaches root id ↔ g.Reaches root id := by
  apply reaches_iff_of_links
  intro id hid
  rw [Node.links, Node.links, (h id hid).alternatives, (h id hid).kind]

/-- The emission is the same at any number of levels. -/
theorem emit (h : g.Preserves g' root) (levels : Nat) :
    g'.emit levels root = g.emit levels root := by
  induction levels generalizing root with
  | zero => rfl
  | succ levels ih =>
      have halternatives : (g.node root).alternatives.mapM (g'.emit levels) =
          (g.node root).alternatives.mapM (g.emit levels) :=
        mapM_congr fun next hnext => ih (h.alternative hnext)
      have hpart : ∀ next ∈ (g.node root).kind.parts, g'.emit levels next = g.emit levels next :=
        fun next hnext => ih (h.part hnext)
      rw [Graph.emit, Graph.emit]
      simp only [h.resembles.kind, h.resembles.alternatives, h.resembles.modifiers, halternatives]
      cases hkind : (g.node root).kind with
      | native pattern => rfl
      | composite children =>
          rw [hkind] at hpart
          have hchildren : children.mapM (g'.emit levels) = children.mapM (g.emit levels) :=
            mapM_congr hpart
          simp only [hchildren]
      | upTo ahead ending direction =>
          rw [hkind] at hpart
          have hahead := hpart ahead List.mem_cons_self
          have hending := hpart ending (List.mem_cons_of_mem _ List.mem_cons_self)
          simp only [hahead, hending]
      | expressionEnd => rfl

/-- A fragment has the same emission in another graph that preserves it. -/
theorem emission {levels : Nat} (h : g.Preserves g' root) (hnests : g'.NestsWithin levels root) :
    g'.emission levels root = g.emission levels root ∧ g.NestsWithin levels root := by
  have hemit := h.emit levels
  rw [emit_of_nestsWithin hnests] at hemit
  have hnests' := nestsWithin_of_emit hemit.symm
  rw [emit_of_nestsWithin hnests'] at hemit
  exact ⟨Except.ok.inj hemit, hnests'⟩

/-- It is nested as deep there. -/
theorem nestsWithin_iff {levels : Nat} (h : g.Preserves g' root) :
    g'.NestsWithin levels root ↔ g.NestsWithin levels root := by
  refine ⟨fun hnests => (h.emission hnests).2, fun hnests => ?_⟩
  have hemit := h.emit levels
  rw [emit_of_nestsWithin hnests] at hemit
  exact nestsWithin_of_emit hemit

/-- The source is the same. -/
theorem source (h : g.Preserves g' root) : g'.source root = g.source root := by
  rw [Graph.source, Graph.source, h.emit]

/-- The flags of the leaves are the same at any number of levels. -/
theorem leafFlags (h : g.Preserves g' root) (levels : Nat) :
    g'.leafFlags levels root = g.leafFlags levels root := by
  induction levels generalizing root with
  | zero => rfl
  | succ levels ih =>
      have halternatives : (g.node root).alternatives.mapM (g'.leafFlags levels) =
          (g.node root).alternatives.mapM (g.leafFlags levels) :=
        mapM_congr fun next hnext => ih (h.alternative hnext)
      have hpart : ∀ next ∈ (g.node root).kind.parts,
          g'.leafFlags levels next = g.leafFlags levels next := fun next hnext => ih (h.part hnext)
      rw [Graph.leafFlags, Graph.leafFlags]
      simp only [h.resembles.kind, h.resembles.alternatives, halternatives]
      cases hkind : (g.node root).kind with
      | native pattern => rfl
      | composite children =>
          rw [hkind] at hpart
          have hchildren : children.mapM (g'.leafFlags levels) =
              children.mapM (g.leafFlags levels) := mapM_congr hpart
          simp only [hchildren]
      | upTo ahead ending direction =>
          rw [hkind] at hpart
          simp only [hpart ahead List.mem_cons_self]
      | expressionEnd => rfl

/-- The flags under which the fragment is matched are the same. -/
theorem resolveFlags (h : g.Preserves g' root) (given default : Option Flags) :
    g'.resolveFlags root given default = g.resolveFlags root given default := by
  rw [Graph.resolveFlags, Graph.resolveFlags, h.resembles.flags, h.leafFlags]

end Preserves

end Graph

end RegexComposition

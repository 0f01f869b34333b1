import Mathlib.Tactic.Common
import RegexComposition.Proofs.Fragment.Nesting

/-!
# Adding to a graph

New fragments are added behind the older ones, which stay what they are: only the registry that
they look names up in and the node that they were last put into may change.

Main results:

- `Graph.Keeps`: every node of the first graph is the same fragment in the second one.
- `Graph.keeps_addComposite`, `Graph.keeps_addUpTo`, `Graph.keeps_adopt`: additions keep what is
  there.
- `Graph.IsPlain`: a node without alternatives, modifiers and flags.
- `Graph.IsPlain.emission`, `Graph.IsPlain.nestsWithin`: what such a node is compiled into.
- `Graph.IsPlain.leafFlags_composite` and the like: its flags.
-/

namespace RegexComposition

/-- The two nodes are compiled alike. -/
structure Node.Resembles (n n' : Node) : Prop where
  kind : n'.kind = n.kind
  alternatives : n'.alternatives = n.alternatives
  modifiers : n'.modifiers = n.modifiers
  flags : n'.flags = n.flags

namespace Graph

variable {g g' g'' : Graph} {id : FragmentId} {kind : FragmentKind}

/-! ## What stays -/

/-- Every node of the first graph is compiled alike in the second one. -/
structure Keeps (g g' : Graph) : Prop where
  size_le : g.size ≤ g'.size
  node : ∀ id, id.index < g.size → (g.node id).Resembles (g'.node id)

namespace Keeps

theorem refl (g : Graph) : g.Keeps g :=
  ⟨Nat.le_refl _, fun _ _ => ⟨rfl, rfl, rfl, rfl⟩⟩

theorem trans (h : g.Keeps g') (h' : g'.Keeps g'') : g.Keeps g'' := by
  refine ⟨Nat.le_trans h.size_le h'.size_le, fun id hid => ?_⟩
  have hfirst := h.node id hid
  have hsecond := h'.node id (Nat.lt_of_lt_of_le hid h.size_le)
  exact ⟨hsecond.kind.trans hfirst.kind, hsecond.alternatives.trans hfirst.alternatives,
    hsecond.modifiers.trans hfirst.modifiers, hsecond.flags.trans hfirst.flags⟩

end Keeps

theorem keeps_add (g : Graph) (kind : FragmentKind) : g.Keeps (g.add kind).2 := by
  refine ⟨by simp, fun id hid => ?_⟩
  rw [node_add_of_lt hid]
  exact ⟨rfl, rfl, rfl, rfl⟩

/-- A change that keeps the changed node keeps all nodes. -/
theorem keeps_modify (g : Graph) (id : FragmentId) {f : Node → Node}
    (hf : ∀ n : Node, n.Resembles (f n)) : g.Keeps (g.modify id f) := by
  refine ⟨by simp, fun other hother => ?_⟩
  by_cases h : other = id
  · subst h
    have hself : (g.modify other f).node other = f (g.node other) := by
      simp only [size] at hother
      simp [modify, Graph.node, hother, Array.getElem_modify]
    rw [hself]
    exact hf _
  · rw [node_modify_of_ne h]
    exact ⟨rfl, rfl, rfl, rfl⟩

theorem keeps_setParent (g : Graph) (parent id : FragmentId) : g.Keeps (g.setParent parent id) :=
  keeps_modify g id fun _ => ⟨rfl, rfl, rfl, rfl⟩

theorem keeps_adopt (g : Graph) (registry : RegistryId) (root : FragmentId) :
    g.Keeps (g.adopt registry root) := by
  refine ⟨by simp [adopt, size], fun id hid => ?_⟩
  simp only [size] at hid
  have hnode : (g.adopt registry root).node id =
      if (g.reachable root).getD id.index false then { g.node id with registry := some registry }
      else g.node id := by
    simp [adopt, node, hid]
  rw [hnode]
  split <;> exact ⟨rfl, rfl, rfl, rfl⟩

/-- Putting nodes into another one keeps them. -/
theorem keeps_foldl_setParent (g : Graph) (parent : FragmentId) (ids : List FragmentId) :
    g.Keeps (ids.foldl (·.setParent parent) g) := by
  induction ids generalizing g with
  | nil => exact Keeps.refl g
  | cons id ids ih => exact (keeps_setParent g parent id).trans (ih _)

/-! ## Plain nodes -/

/-- A node of the given kind without alternatives, modifiers and flags. -/
structure IsPlain (g : Graph) (id : FragmentId) (kind : FragmentKind) : Prop where
  index_lt : id.index < g.size
  kind_eq : (g.node id).kind = kind
  alternatives_eq : (g.node id).alternatives = []
  modifiers_eq : (g.node id).modifiers = Modifiers.none
  flags_eq : (g.node id).flags = none

/-- A new node is plain. -/
theorem isPlain_add (g : Graph) (kind : FragmentKind) :
    (g.add kind).2.IsPlain (g.add kind).1 kind := by
  have hnode := node_add_self g kind
  refine ⟨by simp [add, size], ?_, ?_, ?_, ?_⟩
  · rw [hnode]
  · rw [hnode]
  · rw [hnode]
    rfl
  · rw [hnode]

namespace IsPlain

/-- A plain node stays one. -/
theorem of_keeps (h : g.IsPlain id kind) (hkeeps : g.Keeps g') : g'.IsPlain id kind := by
  have hnode := hkeeps.node id h.index_lt
  exact ⟨Nat.lt_of_lt_of_le h.index_lt hkeeps.size_le, hnode.kind.trans h.kind_eq,
    hnode.alternatives.trans h.alternatives_eq, hnode.modifiers.trans h.modifiers_eq,
    hnode.flags.trans h.flags_eq⟩

/-- A plain node leads to its parts only. -/
theorem links_eq (h : g.IsPlain id kind) : (g.node id).links = kind.parts := by
  rw [Node.links, h.alternatives_eq, h.kind_eq]
  rfl

theorem nestsWithin {levels : Nat} (h : g.IsPlain id kind)
    (hparts : ∀ next ∈ kind.parts, g.NestsWithin levels next) : g.NestsWithin (levels + 1) id := by
  intro next hnext
  rw [h.links_eq] at hnext
  exact hparts next hnext

/-- A plain node is compiled into what its kind makes of its parts. -/
theorem emission (h : g.IsPlain id kind) (levels : Nat) :
    g.emission (levels + 1) id = kind.emission (g.emission levels) := by
  rw [Graph.emission]
  simp only [h.kind_eq, h.alternatives_eq, h.modifiers_eq, Modifiers.apply_none, List.map_nil]
  rfl

/-- A plain leaf has the flags of its pattern. -/
theorem leafFlags_native {pattern : NativePattern} (h : g.IsPlain id (.native pattern))
    (levels : Nat) : g.leafFlags (levels + 1) id = .ok pattern.flags.toList := by
  simp only [leafFlags, h.kind_eq, h.alternatives_eq, List.mapM_nil]
  exact congrArg Except.ok (List.append_nil _)

/-- A plain composite has the flags of its children. -/
theorem leafFlags_composite {children : List FragmentId} {levels : Nat} {flags : List (List Flag)}
    (h : g.IsPlain id (.composite children))
    (hflags : children.mapM (g.leafFlags levels) = .ok flags) :
    g.leafFlags (levels + 1) id = .ok flags.flatten := by
  simp only [leafFlags, h.kind_eq, h.alternatives_eq, List.mapM_nil, hflags]
  exact congrArg Except.ok (List.append_nil _)

/-- A plain forward reference has the flags of what it refers to. -/
theorem leafFlags_upTo {ahead ending : FragmentId} {direction : UntilDirection} {levels : Nat}
    {flags : List Flag} (h : g.IsPlain id (.upTo ahead ending direction))
    (hflags : g.leafFlags levels ahead = .ok flags) : g.leafFlags (levels + 1) id = .ok flags := by
  simp only [leafFlags, h.kind_eq, h.alternatives_eq, List.mapM_nil, hflags]
  exact congrArg Except.ok (List.append_nil _)

end IsPlain

/-! ## New composites and forward references -/

theorem keeps_addComposite (g : Graph) (children : List FragmentId) :
    g.Keeps (g.addComposite children).2 :=
  (keeps_add g _).trans (keeps_foldl_setParent _ _ _)

theorem isPlain_addComposite (g : Graph) (children : List FragmentId) :
    (g.addComposite children).2.IsPlain (g.addComposite children).1 (.composite children) :=
  (isPlain_add g _).of_keeps (keeps_foldl_setParent _ _ _)

theorem keeps_addUpTo (g : Graph) (ahead : FragmentId) (direction : UntilDirection) :
    g.Keeps (g.addUpTo ahead direction).2 :=
  (((keeps_add g _).trans (keeps_add _ _)).trans (keeps_setParent _ _ _)).trans
    (keeps_setParent _ _ _)

/-- A new forward reference has an end of its own. -/
theorem isPlain_addUpTo (g : Graph) (ahead : FragmentId) (direction : UntilDirection) :
    ∃ ending, (g.addUpTo ahead direction).2.IsPlain (g.addUpTo ahead direction).1
        (.upTo ahead ending direction) ∧
      (g.addUpTo ahead direction).2.IsPlain ending .expressionEnd := by
  have hparents := (keeps_setParent ((g.add .expressionEnd).2.add
    (.upTo ahead (g.add .expressionEnd).1 direction)).2 (g.addUpTo ahead direction).1 ahead).trans
    (keeps_setParent _ (g.addUpTo ahead direction).1 (g.add .expressionEnd).1)
  refine ⟨(g.add .expressionEnd).1, (isPlain_add _ _).of_keeps hparents, ?_⟩
  exact ((isPlain_add g .expressionEnd).of_keeps (keeps_add _ _)).of_keeps hparents

end Graph

end RegexComposition

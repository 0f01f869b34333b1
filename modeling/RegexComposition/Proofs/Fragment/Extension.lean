import RegexComposition.Combination
import RegexComposition.Proofs.Fragment.Additions
import RegexComposition.Proofs.Fragment.Reachability

/-!
# Extending a graph

A fragment is made of others by adding nodes over them.  The only thing that this changes about a
node that was there before is where it was last put.  A new node has no alternatives and belongs to
no registry, and it leads to nodes that were there before.

Main results:

- `Graph.Extends`: the older nodes are as before, apart from their parents.
- `Graph.extends_addComposite`, `Graph.extends_assemble` and the like: additions extend the graph.
- `Graph.isClosed_addComposite`, `Graph.isClosed_assemble` and the like: they keep it closed.
-/

namespace RegexComposition

namespace Node

/-- A node without regard to where it was last put. -/
def unplaced (n : Node) : Node := { n with parent := none }

/-- Nothing has been done with the node: it has no alternatives, is not skipped and belongs to no
registry. -/
def IsFresh (n : Node) : Prop := n.alternatives = [] ∧ n.skipped = false ∧ n.registry = none

theorem isFresh_default : (default : Node).IsFresh := ⟨rfl, rfl, rfl⟩

end Node

namespace Builder

variable {slots : List Slot} {g : Graph}

/-- A forward reference with nothing behind it becomes nothing. -/
theorem assemble_forward_of_eq (h : (assemble slots g).1.filterMap id = [])
    (direction : UntilDirection) : assemble (.forward direction :: slots) g =
      (none :: (assemble slots g).1, (assemble slots g).2) := by
  simp only [assemble, h]

/-- A forward reference becomes a node over all fragments behind it. -/
theorem assemble_forward_of_ne (h : (assemble slots g).1.filterMap id ≠ [])
    (direction : UntilDirection) {ahead : FragmentId × Graph}
    (hahead : (assemble slots g).2.addComposite ((assemble slots g).1.filterMap id) = ahead) :
    assemble (.forward direction :: slots) g =
      (some (ahead.2.addUpTo ahead.1 direction).1 :: (assemble slots g).1,
        (ahead.2.addUpTo ahead.1 direction).2) := by
  subst hahead
  simp only [assemble]

end Builder

namespace Graph

variable {g g' g'' : Graph} {id other : FragmentId} {ids : List FragmentId}
variable {f : Node → Node} {kind : FragmentKind}

/-! ## Changing one node -/

theorem node_of_not_has (h : ¬ g.Has id) : g.node id = default := by
  have hsize : g.nodes.size ≤ id.index := Nat.le_of_not_lt h
  simp [node, hsize]

/-- The changed node. -/
theorem node_modify_self (h : g.Has id) (f : Node → Node) :
    (g.modify id f).node id = f (g.node id) := by
  have hindex : id.index < g.nodes.size := h
  simp [modify, node, hindex, Array.getElem_modify]

/-- What a change does not concern is the same for all nodes afterwards. -/
theorem observe_modify {β : Type} {view : Node → β} (hf : ∀ n, view (f n) = view n)
    (g : Graph) (id other : FragmentId) :
    view ((g.modify id f).node other) = view (g.node other) := by
  by_cases hother : other = id
  · subst hother
    by_cases hid : g.Has other
    · rw [node_modify_self hid, hf]
    · have hid' : ¬ (g.modify other f).Has other := by
        simpa [Has] using hid
      rw [node_of_not_has hid, node_of_not_has hid']
  · rw [node_modify_of_ne hother]

@[simp]
theorem has_modify : (g.modify id f).Has other ↔ g.Has other := by
  simp [Has]

@[simp]
theorem has_adopt {registry : RegistryId} : (g.adopt registry id).Has other ↔ g.Has other := by
  simp [Has]

/-- A node that was not there before is the new one or still is not there. -/
theorem eq_or_not_has_add (kind : FragmentKind) (h : ¬ g.Has id) :
    id = (g.add kind).1 ∨ ¬ (g.add kind).2.Has id := by
  obtain ⟨i⟩ := id
  have hsize : (g.add kind).2.size = g.size + 1 := size_add g kind
  have hfirst : (g.add kind).1 = ⟨g.size⟩ := rfl
  simp only [Has, hsize, hfirst, FragmentId.mk.injEq] at h ⊢
  omega

/-! ## Extensions -/

/-- The nodes of the first graph are in the second one what they were, apart from their parents,
and nothing has been done with the others. -/
structure Extends (g g' : Graph) : Prop where
  size_le : g.size ≤ g'.size
  unplaced : ∀ id, g.Has id → (g'.node id).unplaced = (g.node id).unplaced
  isFresh : ∀ id, ¬ g.Has id → (g'.node id).IsFresh

namespace Extends

theorem refl (g : Graph) : g.Extends g where
  size_le := Nat.le_refl _
  unplaced := fun _ _ => rfl
  isFresh := fun _ h => by
    rw [node_of_not_has h]
    exact Node.isFresh_default

theorem has (h : g.Extends g') (hid : g.Has id) : g'.Has id := Nat.lt_of_lt_of_le hid h.size_le

/-- What can be seen of an old node without its parent is as before. -/
theorem observe {β : Sort _} {view : Node → β} (hview : ∀ n, view n.unplaced = view n)
    (h : g.Extends g') (hid : g.Has id) : view (g'.node id) = view (g.node id) := by
  rw [← hview, h.unplaced id hid, hview]

theorem links (h : g.Extends g') (hid : g.Has id) : (g'.node id).links = (g.node id).links :=
  h.observe (fun _ => rfl) hid

theorem skipped (h : g.Extends g') (hid : g.Has id) :
    (g'.node id).skipped = (g.node id).skipped :=
  h.observe (fun _ => rfl) hid

theorem registry (h : g.Extends g') (hid : g.Has id) :
    (g'.node id).registry = (g.node id).registry :=
  h.observe (fun _ => rfl) hid

theorem trans (h : g.Extends g') (h' : g'.Extends g'') : g.Extends g'' where
  size_le := h.size_le.trans h'.size_le
  unplaced := by
    intro id hid
    rw [h'.unplaced id (h.has hid), h.unplaced id hid]
  isFresh := by
    intro id hid
    by_cases hid' : g'.Has id
    · have hsame : (g''.node id).IsFresh = (g'.node id).IsFresh := h'.observe (fun _ => rfl) hid'
      rw [hsame]
      exact h.isFresh id hid
    · exact h'.isFresh id hid'

/-- A change to a new node that leaves it fresh extends the graph, too. -/
theorem modify_new (h : g.Extends g') (hid : ¬ g.Has id)
    (hf : ∀ n : Node, (f n).IsFresh = n.IsFresh) : g.Extends (g'.modify id f) where
  size_le := by simpa using h.size_le
  unplaced := by
    intro other hother
    have hne : other ≠ id := fun heq => hid (heq ▸ hother)
    rw [node_modify_of_ne hne, h.unplaced other hother]
  isFresh := by
    intro other hother
    rw [observe_modify hf]
    exact h.isFresh other hother

/-- An old node leads where it led before. -/
theorem reaches_iff (h : g.Extends g') (hg : g.IsClosed) (hid : g.Has id) :
    g'.Reaches id other ↔ g.Reaches id other :=
  reaches_iff_of_links fun _ hreaches => h.links (has_of_reaches hg hid hreaches)

theorem keeps (h : g.Extends g') : g.Keeps g' where
  size_le := h.size_le
  node := fun _ hid =>
    ⟨h.observe (fun _ => rfl) hid, h.observe (fun _ => rfl) hid, h.observe (fun _ => rfl) hid,
      h.observe (fun _ => rfl) hid⟩

end Extends

/-! ## Additions -/

theorem extends_add (g : Graph) (kind : FragmentKind) : g.Extends (g.add kind).2 where
  size_le := by simp
  unplaced := fun id hid => by rw [node_add_of_lt hid]
  isFresh := by
    intro id hid
    rcases eq_or_not_has_add kind hid with rfl | hid'
    · rw [node_add_self]
      exact ⟨rfl, rfl, rfl⟩
    · rw [node_of_not_has hid']
      exact Node.isFresh_default

theorem extends_setParent (g : Graph) (parent id : FragmentId) :
    g.Extends (g.setParent parent id) where
  size_le := by simp [setParent]
  unplaced := fun other _ =>
    @observe_modify ({ · with parent := some parent }) _ Node.unplaced (fun _ => rfl) g id other
  isFresh := by
    intro other hother
    have hsame : ((g.setParent parent id).node other).IsFresh = (g.node other).IsFresh :=
      @observe_modify ({ · with parent := some parent }) _ Node.IsFresh (fun _ => rfl) g id other
    rw [hsame, node_of_not_has hother]
    exact Node.isFresh_default

theorem extends_foldl_setParent (g : Graph) (parent : FragmentId) (ids : List FragmentId) :
    g.Extends (ids.foldl (·.setParent parent) g) := by
  induction ids generalizing g with
  | nil => exact Extends.refl g
  | cons id ids ih => exact (extends_setParent g parent id).trans (ih _)

theorem extends_addComposite (g : Graph) (children : List FragmentId) :
    g.Extends (g.addComposite children).2 :=
  (extends_add g _).trans (extends_foldl_setParent _ _ _)

theorem extends_addUpTo (g : Graph) (ahead : FragmentId) (direction : UntilDirection) :
    g.Extends (g.addUpTo ahead direction).2 :=
  (((extends_add g _).trans (extends_add _ _)).trans (extends_setParent _ _ _)).trans
    (extends_setParent _ _ _)

theorem not_has_addComposite (g : Graph) (children : List FragmentId) :
    ¬ g.Has (g.addComposite children).1 := Nat.lt_irrefl _

theorem extends_addWrapper (g : Graph) (child : FragmentId) (modifiers : Modifiers) :
    g.Extends (g.addWrapper child modifiers).2 :=
  (extends_addComposite g [child]).modify_new (not_has_addComposite g [child]) fun _ => rfl

/-- A forward reference becomes nothing or a node over some of the fragments behind it. -/
theorem assemble_forward_cases (slots : List Builder.Slot) (g : Graph)
    (direction : UntilDirection) :
    Builder.assemble (.forward direction :: slots) g =
        (none :: (Builder.assemble slots g).1, (Builder.assemble slots g).2) ∨
      ∃ children ahead, (∀ child ∈ children, some child ∈ (Builder.assemble slots g).1) ∧
        ahead = (Builder.assemble slots g).2.addComposite children ∧
        Builder.assemble (.forward direction :: slots) g =
          (some (ahead.2.addUpTo ahead.1 direction).1 :: (Builder.assemble slots g).1,
            (ahead.2.addUpTo ahead.1 direction).2) := by
  by_cases h : (Builder.assemble slots g).1.filterMap (fun product => product) = []
  · exact .inl (Builder.assemble_forward_of_eq h direction)
  · refine .inr ⟨_, _, fun child hchild => ?_, rfl, Builder.assemble_forward_of_ne h direction rfl⟩
    rw [List.mem_filterMap] at hchild
    obtain ⟨child?, hmem, rfl⟩ := hchild
    exact hmem

/-- Resolved arguments are put together by additions. -/
theorem extends_assemble (slots : List Builder.Slot) (g : Graph) :
    g.Extends (Builder.assemble slots g).2 := by
  induction slots with
  | nil => exact Extends.refl g
  | cons slot slots ih =>
      cases slot with
      | product id => exact ih
      | dropped => exact ih
      | forward direction =>
          rcases assemble_forward_cases slots g direction with heq | ⟨children, ahead, -, rfl, heq⟩
          · rw [heq]
            exact ih
          · rw [heq]
            exact (ih.trans (extends_addComposite _ _)).trans (extends_addUpTo _ _ _)

/-! ## New nodes -/

theorem has_add_self (g : Graph) (kind : FragmentKind) : (g.add kind).2.Has (g.add kind).1 := by
  simp [Has, add, size]

theorem has_addComposite_self (g : Graph) (children : List FragmentId) :
    (g.addComposite children).2.Has (g.addComposite children).1 :=
  (extends_foldl_setParent _ _ _).has (has_add_self g _)

theorem has_addUpTo_self (g : Graph) (ahead : FragmentId) (direction : UntilDirection) :
    (g.addUpTo ahead direction).2.Has (g.addUpTo ahead direction).1 :=
  ((extends_setParent _ _ _).trans (extends_setParent _ _ _)).has (has_add_self _ _)

theorem has_addWrapper_self (g : Graph) (child : FragmentId) (modifiers : Modifiers) :
    (g.addWrapper child modifiers).2.Has (g.addWrapper child modifiers).1 := by
  simpa [addWrapper] using has_addComposite_self g [child]

/-- Assembled fragments are in the graph if the resolved ones are. -/
theorem has_of_mem_assemble {slots : List Builder.Slot}
    (h : ∀ id, .product id ∈ slots → g.Has id) (hid : some id ∈ (Builder.assemble slots g).1) :
    (Builder.assemble slots g).2.Has id := by
  induction slots generalizing id with
  | nil => cases hid
  | cons slot slots ih =>
      have hrest : ∀ {id : FragmentId}, some id ∈ (Builder.assemble slots g).1 →
          (Builder.assemble slots g).2.Has id :=
        fun hid => ih (fun id hid => h id (List.mem_cons_of_mem _ hid)) hid
      cases slot with
      | product first =>
          rcases List.mem_cons.1 hid with heq | hid
          · obtain rfl := Option.some.inj heq
            exact (extends_assemble slots g).has (h id List.mem_cons_self)
          · exact hrest hid
      | dropped =>
          rcases List.mem_cons.1 hid with heq | hid
          · cases heq
          · exact hrest hid
      | forward direction =>
          rcases assemble_forward_cases slots g direction with heq | ⟨children, ahead, -, rfl, heq⟩
          · rw [heq] at hid ⊢
            rcases List.mem_cons.1 hid with hnone | hid
            · cases hnone
            · exact hrest hid
          · rw [heq] at hid ⊢
            rcases List.mem_cons.1 hid with hsome | hid
            · obtain rfl := Option.some.inj hsome
              exact has_addUpTo_self _ _ _
            · exact ((extends_addComposite _ _).trans (extends_addUpTo _ _ _)).has (hrest hid)

/-! ## Closed graphs -/

theorem isClosed_iff :
    g.IsClosed ↔ ∀ i < g.size, ∀ next ∈ (g.node ⟨i⟩).links, g.Has next := by
  constructor
  · intro h i _ next hnext
    exact h ⟨i⟩ next hnext
  · intro h id next hnext
    by_cases hid : g.Has id
    · exact h id.index hid next hnext
    · rw [node_of_not_has hid] at hnext
      cases hnext

instance (g : Graph) : Decidable g.IsClosed := decidable_of_iff _ isClosed_iff.symm

/-- A graph with the same links is closed, too. -/
theorem IsClosed.of_links (h : g.IsClosed) (hsize : g.size ≤ g'.size)
    (hlinks : ∀ id, (g'.node id).links = (g.node id).links) : g'.IsClosed := by
  intro id next hnext
  rw [hlinks id] at hnext
  exact Nat.lt_of_lt_of_le (h id next hnext) hsize

theorem isClosed_modify (h : g.IsClosed) (id : FragmentId) (hf : ∀ n, (f n).links = n.links) :
    (g.modify id f).IsClosed :=
  h.of_links (by simp) (observe_modify hf g id)

theorem isClosed_add (h : g.IsClosed) (hparts : ∀ next ∈ kind.parts, g.Has next) :
    (g.add kind).2.IsClosed := by
  intro id next hnext
  have hbefore : g.Has next := by
    by_cases hid : g.Has id
    · rw [node_add_of_lt hid] at hnext
      exact h id next hnext
    · rcases eq_or_not_has_add kind hid with rfl | hid'
      · rw [node_add_self] at hnext
        exact hparts next hnext
      · rw [node_of_not_has hid'] at hnext
        cases hnext
  exact (extends_add g kind).has hbefore

theorem isClosed_setParent (h : g.IsClosed) (parent id : FragmentId) :
    (g.setParent parent id).IsClosed :=
  isClosed_modify h id fun _ => rfl

theorem isClosed_foldl_setParent (h : g.IsClosed) (parent : FragmentId) (ids : List FragmentId) :
    (ids.foldl (·.setParent parent) g).IsClosed := by
  induction ids generalizing g with
  | nil => exact h
  | cons id ids ih => exact ih (isClosed_setParent h parent id)

theorem isClosed_addComposite (h : g.IsClosed) (hids : ∀ id ∈ ids, g.Has id) :
    (g.addComposite ids).2.IsClosed := by
  have hadd : (g.add (.composite ids)).2.IsClosed := isClosed_add h hids
  exact isClosed_foldl_setParent hadd _ _

theorem isClosed_addUpTo (h : g.IsClosed) (hid : g.Has id) (direction : UntilDirection) :
    (g.addUpTo id direction).2.IsClosed := by
  have hending : (g.add .expressionEnd).2.IsClosed := isClosed_add h (by simp [FragmentKind.parts])
  have hparts : ∀ next ∈ (FragmentKind.upTo id (g.add .expressionEnd).1 direction).parts,
      (g.add .expressionEnd).2.Has next := by
    intro next hnext
    simp only [FragmentKind.parts, List.mem_cons, List.not_mem_nil, or_false] at hnext
    rcases hnext with rfl | rfl
    · exact (extends_add g _).has hid
    · exact has_add_self g _
  exact isClosed_setParent (isClosed_setParent (isClosed_add hending hparts) _ _) _ _

theorem isClosed_addWrapper (h : g.IsClosed) (hid : g.Has id) (modifiers : Modifiers) :
    (g.addWrapper id modifiers).2.IsClosed :=
  isClosed_modify (isClosed_addComposite h (by simpa using hid)) _ fun _ => rfl

theorem isClosed_adopt (h : g.IsClosed) (hid : g.Has id) (registry : RegistryId) :
    (g.adopt registry id).IsClosed :=
  h.of_links (by simp) (links_adopt h hid registry)

theorem isClosed_assemble {slots : List Builder.Slot} (hg : g.IsClosed)
    (h : ∀ id, .product id ∈ slots → g.Has id) : (Builder.assemble slots g).2.IsClosed := by
  induction slots with
  | nil => exact hg
  | cons slot slots ih =>
      have hslots : ∀ id, .product id ∈ slots → g.Has id :=
        fun id hid => h id (List.mem_cons_of_mem _ hid)
      cases slot with
      | product id => exact ih hslots
      | dropped => exact ih hslots
      | forward direction =>
          rcases assemble_forward_cases slots g direction with
            heq | ⟨children, ahead, hchildren, rfl, heq⟩
          · rw [heq]
            exact ih hslots
          · rw [heq]
            refine isClosed_addUpTo (isClosed_addComposite (ih hslots) fun child hchild => ?_)
              (has_addComposite_self _ _) direction
            exact has_of_mem_assemble hslots (hchildren child hchild)

end Graph

end RegexComposition

import RegexComposition.Proofs.Fragment.Extension

/-!
# Graphs with one more leaf

A graph in which a leaf has been added before other nodes has the same fragments as without the
leaf.  Only the identities of the later nodes are others.

Main results:

- `FragmentId.past`: the identity of a node if there is one more node in front of it.
- `Graph.WithLeaf`: the second graph is the first one with a leaf more.
- `Graph.WithLeaf.emission`, `Graph.WithLeaf.leafFlags`: its fragments are compiled alike.
- `Graph.WithLeaf.addNative`, `Graph.WithLeaf.addWrapper`: additions to both of them.
-/

namespace RegexComposition

/-! ## Other identities -/

/-- The identity of a node if there is one more node at the given place. -/
def FragmentId.past (k id : FragmentId) : FragmentId :=
  if id.index < k.index then id else ⟨id.index + 1⟩

theorem FragmentId.past_of_lt {k id : FragmentId} (h : id.index < k.index) : k.past id = id :=
  if_pos h

/-- A kind with other nodes for those that it mentions. -/
def FragmentKind.map (f : FragmentId → FragmentId) : FragmentKind → FragmentKind
  | native pattern => native pattern
  | composite children => composite (children.map f)
  | upTo ahead ending direction => upTo (f ahead) (f ending) direction
  | expressionEnd => expressionEnd

/-- A node that leads to other nodes. -/
def Node.map (f : FragmentId → FragmentId) (n : Node) : Node :=
  { n with kind := n.kind.map f, alternatives := n.alternatives.map f }

namespace FragmentKind

variable {f : FragmentId → FragmentId} {kind : FragmentKind}

theorem parts_map (f : FragmentId → FragmentId) (kind : FragmentKind) :
    (kind.map f).parts = kind.parts.map f := by
  cases kind <;> rfl

theorem map_of_forall (h : ∀ id ∈ kind.parts, f id = id) : kind.map f = kind := by
  cases kind with
  | native | expressionEnd => rfl
  | composite children => exact congrArg composite ((List.map_congr_left h).trans (List.map_id' _))
  | upTo ahead ending direction =>
      rw [map, h ahead List.mem_cons_self, h ending (List.mem_cons_of_mem _ List.mem_cons_self)]

theorem emission_map (part : FragmentId → Emission) (f : FragmentId → FragmentId)
    (kind : FragmentKind) : (kind.map f).emission part = kind.emission (part ∘ f) := by
  cases kind with
  | native | expressionEnd | upTo => rfl
  | composite children => rw [map, emission, emission, List.map_map]

theorem leafFlags_map (part : FragmentId → Except CompositionError (List Flag))
    (f : FragmentId → FragmentId) (kind : FragmentKind) :
    (kind.map f).leafFlags part = kind.leafFlags (part ∘ f) := by
  cases kind with
  | native | expressionEnd | upTo => rfl
  | composite children => rw [map, leafFlags, leafFlags, List.mapM_map]

end FragmentKind

theorem Node.links_map (f : FragmentId → FragmentId) (n : Node) :
    (n.map f).links = n.links.map f := by
  rw [links, links, List.map_append, map, FragmentKind.parts_map]

/-- A node that leads to no other nodes than before is the same one. -/
theorem Node.map_of_forall {f : FragmentId → FragmentId} {n : Node}
    (h : ∀ id ∈ n.links, f id = id) : n.map f = n := by
  have hkind : n.kind.map f = n.kind := FragmentKind.map_of_forall fun id hid =>
    h id (List.mem_append_right _ hid)
  have halternatives : n.alternatives.map f = n.alternatives := by
    refine (List.map_congr_left fun id hid => ?_).trans (List.map_id' _)
    exact h id (List.mem_append_left _ hid)
  rw [map, hkind, halternatives]

namespace Graph

variable {g g' h₁ h₁' : Graph} {k id : FragmentId} {pattern : NativePattern} {levels : Nat}

/-- The second graph is the first one with a leaf more at the given place, apart from where the
nodes were last put. -/
structure WithLeaf (g : Graph) (k : FragmentId) (pattern : NativePattern) (g' : Graph) : Prop where
  size_eq : g'.size = g.size + 1
  index_le : k.index ≤ g.size
  unplaced : ∀ id, (g'.node (k.past id)).unplaced = ((g.node id).map k.past).unplaced
  leaf : g'.IsPlain k (.native pattern)

/-- A leaf that is added to a graph. -/
theorem WithLeaf.of_unplaced (hg : g.IsClosed) (hsize : g'.size = g.size + 1)
    (h : ∀ id, g.Has id → (g'.node id).unplaced = (g.node id).unplaced)
    (hleaf : g'.IsPlain ⟨g.size⟩ (.native pattern)) : g.WithLeaf ⟨g.size⟩ pattern g' := by
  refine ⟨hsize, Nat.le_refl _, fun id => ?_, hleaf⟩
  have hold : ∀ id, g.Has id → FragmentId.past ⟨g.size⟩ id = id :=
    fun _ => FragmentId.past_of_lt
  by_cases hid : g.Has id
  · rw [hold id hid, Node.map_of_forall fun next hnext => hold next (hg id next hnext)]
    exact h id hid
  · have hpast : ¬ g'.Has (FragmentId.past ⟨g.size⟩ id) := by
      simp only [Has, FragmentId.past, hsize] at hid ⊢
      rw [if_neg hid]
      show ¬ id.index + 1 < g.size + 1
      omega
    rw [node_of_not_has hpast, node_of_not_has hid]
    rfl

/-- A new leaf is one more leaf. -/
theorem withLeaf_addNative (hg : g.IsClosed) (pattern : NativePattern) :
    g.WithLeaf (g.addNative pattern).1 pattern (g.addNative pattern).2 :=
  .of_unplaced hg (size_add g _) (extends_add g _).unplaced (isPlain_add g _)

/-- A new leaf is one more leaf after it has been adopted, too. -/
theorem withLeaf_adopt (hg : g.IsClosed) (pattern : NativePattern) (registry : RegistryId) :
    g.WithLeaf (g.addNative pattern).1 pattern
      ((g.addNative pattern).2.adopt registry (g.addNative pattern).1) := by
  have hclosed : (g.addNative pattern).2.IsClosed := isClosed_add hg (by simp [FragmentKind.parts])
  have hlinks : ((g.addNative pattern).2.node (g.addNative pattern).1).links = [] := by
    rw [addNative, node_add_self]
    rfl
  refine .of_unplaced hg ?_ (fun id hid => ?_) ((isPlain_add g _).of_keeps (keeps_adopt _ _ _))
  · rw [size_adopt]
    exact size_add g _
  · have hother : ¬ (g.addNative pattern).2.Reaches (g.addNative pattern).1 id := fun hreaches =>
      Nat.ne_of_lt hid (congrArg FragmentId.index (eq_of_reaches_leaf hlinks hreaches))
    have hhas : (g.addNative pattern).2.Has (g.addNative pattern).1 := has_add_self g _
    rw [node_adopt hclosed hhas, if_neg hother]
    exact (extends_add g _).unplaced id hid

/-- A wrapper is a composite with modifiers and nothing else. -/
theorem unplaced_addWrapper (g : Graph) (child : FragmentId) (modifiers : Modifiers) :
    ((g.addWrapper child modifiers).2.node ⟨g.size⟩).unplaced =
      { kind := .composite [child], modifiers := modifiers } := by
  have hadd : (g.add (.composite [child])).2.node ⟨g.size⟩ = { kind := .composite [child] } :=
    node_add_self g _
  have hcomposite : ((g.addComposite [child]).2.node ⟨g.size⟩).unplaced =
      ((g.add (.composite [child])).2.node ⟨g.size⟩).unplaced :=
    (extends_foldl_setParent _ _ _).unplaced _ (has_add_self g _)
  have hwrapper : (g.addWrapper child modifiers).2.node ⟨g.size⟩ =
      { (g.addComposite [child]).2.node ⟨g.size⟩ with modifiers := modifiers } :=
    node_modify_self (has_addComposite_self g [child]) _
  rw [hadd] at hcomposite
  rw [hwrapper]
  exact congrArg (fun n : Node => { n with modifiers := modifiers }) hcomposite

namespace WithLeaf

/-! ## Compiling -/

/-- What can be seen of a node without its parent. -/
theorem observe {β : Sort _} {view : Node → β} (hview : ∀ n, view n.unplaced = view n)
    (h : g.WithLeaf k pattern g') (id : FragmentId) :
    view (g'.node (k.past id)) = view ((g.node id).map k.past) := by
  rw [← hview, h.unplaced, hview]

theorem links (h : g.WithLeaf k pattern g') (id : FragmentId) :
    (g'.node (k.past id)).links = (g.node id).links.map k.past := by
  rw [← Node.links_map]
  exact h.observe (fun _ => rfl) id

theorem emission (h : g.WithLeaf k pattern g') (levels : Nat) (id : FragmentId) :
    g'.emission levels (k.past id) = g.emission levels id := by
  induction levels generalizing id with
  | zero => rfl
  | succ levels ih =>
      have hparts : g'.emission levels ∘ k.past = g.emission levels := funext ih
      have hkind : (g'.node (k.past id)).kind = (g.node id).kind.map k.past :=
        h.observe (fun _ => rfl) id
      have halternatives : (g'.node (k.past id)).alternatives =
          (g.node id).alternatives.map k.past := h.observe (fun _ => rfl) id
      have hmodifiers : (g'.node (k.past id)).modifiers = (g.node id).modifiers :=
        h.observe (fun _ => rfl) id
      rw [Graph.emission, Graph.emission]
      simp only [hkind, halternatives, hmodifiers, FragmentKind.emission_map, List.map_map, hparts]

theorem nestsWithin_iff (h : g.WithLeaf k pattern g') (levels : Nat) (id : FragmentId) :
    g'.NestsWithin levels (k.past id) ↔ g.NestsWithin levels id := by
  induction levels generalizing id with
  | zero => exact Iff.rfl
  | succ levels ih => simp only [NestsWithin, h.links, List.forall_mem_map, ih]

theorem leafFlags (h : g.WithLeaf k pattern g') (levels : Nat) (id : FragmentId) :
    g'.leafFlags levels (k.past id) = g.leafFlags levels id := by
  induction levels generalizing id with
  | zero => rfl
  | succ levels ih =>
      have hparts : g'.leafFlags levels ∘ k.past = g.leafFlags levels := funext ih
      have hkind : (g'.node (k.past id)).kind = (g.node id).kind.map k.past :=
        h.observe (fun _ => rfl) id
      have halternatives : (g'.node (k.past id)).alternatives =
          (g.node id).alternatives.map k.past := h.observe (fun _ => rfl) id
      rw [leafFlags_succ, leafFlags_succ, hkind, halternatives, FragmentKind.leafFlags_map,
        List.mapM_map, hparts]

/-- A leaf takes up one level. -/
theorem nestsWithin_leaf_iff (h : g.WithLeaf k pattern g') : g'.NestsWithin levels k ↔ 0 < levels := by
  cases levels with
  | zero => exact iff_of_false not_false (Nat.lt_irrefl 0)
  | succ levels => exact iff_of_true (h.leaf.nestsWithin (by rintro _ ⟨⟩)) (Nat.succ_pos levels)

/-! ## The nodes -/

theorem has_past_iff (h : g.WithLeaf k pattern g') : g'.Has (k.past id) ↔ g.Has id := by
  have hsize := h.size_eq
  have hle := h.index_le
  rw [FragmentId.past]
  split <;> simp only [Has] <;> omega

theorem has_leaf (h : g.WithLeaf k pattern g') : g'.Has k := h.leaf.index_lt

/-- Every node is the leaf or was there before. -/
theorem eq_or_exists_past (k id : FragmentId) : id = k ∨ ∃ id', id = k.past id' := by
  obtain ⟨i⟩ := id
  obtain ⟨j⟩ := k
  rcases Nat.lt_trichotomy i j with hlt | rfl | hgt
  · exact .inr ⟨⟨i⟩, (FragmentId.past_of_lt hlt).symm⟩
  · exact .inl rfl
  · refine .inr ⟨⟨i - 1⟩, ?_⟩
    rw [FragmentId.past, if_neg (by simp only; omega)]
    simp only [FragmentId.mk.injEq]
    omega

theorem isClosed (h : g.WithLeaf k pattern g') (hg : g.IsClosed) : g'.IsClosed := by
  intro id next hnext
  rcases eq_or_exists_past k id with rfl | ⟨id', rfl⟩
  · rw [h.leaf.links_eq] at hnext
    cases hnext
  · rw [h.links] at hnext
    rcases List.mem_map.1 hnext with ⟨next', hnext', rfl⟩
    exact h.has_past_iff.2 (hg id' next' hnext')

/-! ## Additions -/

/-- A node that is added to both graphs. -/
theorem extend (h : g.WithLeaf k pattern g') (he : g.Extends h₁) (he' : g'.Extends h₁')
    (hsize : h₁.size = g.size + 1) (hsize' : h₁'.size = g'.size + 1)
    (hnew : (h₁'.node ⟨g'.size⟩).unplaced = ((h₁.node ⟨g.size⟩).map k.past).unplaced) :
    k.past ⟨g.size⟩ = ⟨g'.size⟩ ∧ h₁.WithLeaf k pattern h₁' := by
  have hpast : k.past ⟨g.size⟩ = ⟨g'.size⟩ := by
    rw [FragmentId.past, if_neg (Nat.not_lt.2 h.index_le), h.size_eq]
  refine ⟨hpast, ?_, ?_, fun id => ?_, h.leaf.of_keeps he'.keeps⟩
  · rw [hsize', h.size_eq, hsize]
  · rw [hsize]
    exact h.index_le.trans (Nat.le_succ _)
  · by_cases hid : g.Has id
    · have hsame : ((h₁.node id).map k.past).unplaced = ((g.node id).map k.past).unplaced :=
        congrArg (Node.map k.past) (he.unplaced id hid)
      rw [he'.unplaced _ (h.has_past_iff.2 hid), h.unplaced, hsame]
    · by_cases hlast : id = ⟨g.size⟩
      · rw [hlast, hpast, hnew]
      · have hmore : g.size < id.index := by
          obtain ⟨i⟩ := id
          simp only [Has, FragmentId.mk.injEq] at hid hlast ⊢
          omega
        have hnot : ¬ h₁.Has id := by
          simp only [Has, hsize]
          omega
        have hnot' : ¬ h₁'.Has (k.past id) := by
          rw [FragmentId.past, if_neg (by have := h.index_le; omega)]
          simp only [Has, hsize', h.size_eq]
          omega
        rw [node_of_not_has hnot, node_of_not_has hnot']
        rfl

theorem addNative (h : g.WithLeaf k pattern g') (native : NativePattern) :
    k.past (g.addNative native).1 = (g'.addNative native).1 ∧
      (g.addNative native).2.WithLeaf k pattern (g'.addNative native).2 := by
  refine h.extend (extends_add g _) (extends_add g' _) (size_add g _) (size_add g' _) ?_
  have hnode : (g.addNative native).2.node ⟨g.size⟩ = { kind := .native native } :=
    node_add_self g _
  have hnode' : (g'.addNative native).2.node ⟨g'.size⟩ = { kind := .native native } :=
    node_add_self g' _
  rw [hnode, hnode']
  rfl

theorem addWrapper (h : g.WithLeaf k pattern g') (child : FragmentId) (modifiers : Modifiers) :
    k.past (g.addWrapper child modifiers).1 = (g'.addWrapper (k.past child) modifiers).1 ∧
      (g.addWrapper child modifiers).2.WithLeaf k pattern
        (g'.addWrapper (k.past child) modifiers).2 := by
  have hsize : ∀ (g : Graph) (child : FragmentId),
      (g.addWrapper child modifiers).2.size = g.size + 1 := fun g child => by
    simp [Graph.addWrapper, addComposite, setParent]
  refine h.extend (extends_addWrapper g _ _) (extends_addWrapper g' _ _) (hsize g child)
    (hsize g' _) ?_
  have hnode := congrArg (Node.map k.past) (unplaced_addWrapper g child modifiers)
  rw [unplaced_addWrapper]
  exact hnode.symm

end WithLeaf

end Graph

end RegexComposition

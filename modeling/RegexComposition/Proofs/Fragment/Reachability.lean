import Mathlib.Data.Finset.Card
import Mathlib.Data.Finset.Range
import RegexComposition.Proofs.Fragment.Nesting

/-!
# Reachable nodes

Adoption visits everything that can be reached from a node, each node once.  The search for these
nodes marks a node before it follows its links, so that cycles do no harm; it has found everything
when the links of all marked nodes lead to marked nodes.

Main results:

- `Graph.IsClosed`: nodes lead to nodes of the graph only.
- `Graph.Explores`: what a search that starts from some nodes does to the marks.
- `Graph.explores_mark`: the search does it, if its budget covers the unmarked nodes.
- `Graph.reachable_iff`: the search finds the reachable nodes and no others.
- `Graph.node_adopt`: adoption points these at the registry and changes nothing else.
-/

namespace RegexComposition

namespace Graph

variable {g g' : Graph} {root id : FragmentId} {roots : List FragmentId}
variable {marks marks' marks'' : Array Bool}

/-! ## Paths -/

/-- The node is one of the graph. -/
def Has (g : Graph) (id : FragmentId) : Prop := id.index < g.size

instance (g : Graph) (id : FragmentId) : Decidable (g.Has id) :=
  inferInstanceAs (Decidable (id.index < g.size))

/-- Nodes lead to nodes of the graph only. -/
def IsClosed (g : Graph) : Prop := ∀ id, ∀ next ∈ (g.node id).links, g.Has next

/-- From a leaf only the leaf can be reached. -/
theorem eq_of_reaches_leaf (hlinks : (g.node root).links = []) (h : g.Reaches root id) :
    id = root := by
  rcases h.cases_head with rfl | ⟨next, hnext, -⟩
  · rfl
  · rw [hlinks] at hnext
    cases hnext

theorem has_of_reaches (hg : g.IsClosed) (hroot : g.Has root) (h : g.Reaches root id) :
    g.Has id := by
  induction h with
  | refl => exact hroot
  | tail _ hnext _ => exact hg _ _ hnext

/-- What can be reached does not change if the links of everything that can be reached do not. -/
theorem reaches_iff_of_links
    (h : ∀ id, g.Reaches root id → (g'.node id).links = (g.node id).links) :
    g'.Reaches root id ↔ g.Reaches root id := by
  constructor
  · intro hid
    induction hid with
    | refl => exact Relation.ReflTransGen.refl
    | @tail id next _ hnext ih =>
        rw [h id ih] at hnext
        exact ih.tail hnext
  · intro hid
    induction hid with
    | refl => exact Relation.ReflTransGen.refl
    | @tail id next hid hnext ih =>
        rw [← h id hid] at hnext
        exact ih.tail hnext

/-! ## Marks -/

/-- The node is marked. -/
def IsMarked (marks : Array Bool) (id : FragmentId) : Prop := marks.getD id.index false = true

instance (marks : Array Bool) : DecidablePred (IsMarked marks) :=
  fun id => inferInstanceAs (Decidable (marks.getD id.index false = true))

/-- The indices of the nodes that are not marked. -/
def unmarked (marks : Array Bool) : Finset Nat :=
  {i ∈ Finset.range marks.size | ¬ IsMarked marks ⟨i⟩}

theorem mem_unmarked {i : Nat} :
    i ∈ unmarked marks ↔ i < marks.size ∧ ¬ IsMarked marks ⟨i⟩ := by
  simp [unmarked]

/-- Setting the mark of a node marks this node and keeps the other marks. -/
theorem isMarked_setIfInBounds {other : FragmentId} (h : id.index < marks.size) :
    IsMarked (marks.setIfInBounds id.index true) other ↔ other = id ∨ IsMarked marks other := by
  obtain ⟨i⟩ := id
  obtain ⟨j⟩ := other
  simp only [IsMarked, Array.getD_eq_getD_getElem?, FragmentId.mk.injEq]
  by_cases hij : j = i
  · subst hij
    simp [h]
  · simp [hij, Array.getElem?_setIfInBounds_ne (Ne.symm hij)]

/-- With more marks there are fewer nodes without one. -/
theorem card_unmarked_le (hsize : marks'.size = marks.size)
    (hmono : ∀ id, IsMarked marks id → IsMarked marks' id) :
    (unmarked marks').card ≤ (unmarked marks).card := by
  apply Finset.card_le_card
  intro i hi
  rw [mem_unmarked] at hi ⊢
  exact ⟨hsize ▸ hi.1, fun hmarked => hi.2 (hmono _ hmarked)⟩

/-- A new mark leaves one node less without one. -/
theorem card_unmarked_set_lt (h : id.index < marks.size) (hid : ¬ IsMarked marks id) :
    (unmarked (marks.setIfInBounds id.index true)).card < (unmarked marks).card := by
  apply Finset.card_lt_card
  rw [Finset.ssubset_iff_of_subset]
  · refine ⟨id.index, mem_unmarked.2 ⟨h, hid⟩, fun hmem => ?_⟩
    exact (mem_unmarked.1 hmem).2 ((isMarked_setIfInBounds h).2 (.inl rfl))
  · intro i hi
    rw [mem_unmarked, Array.size_setIfInBounds] at hi
    refine mem_unmarked.2 ⟨hi.1, fun hmarked => hi.2 ?_⟩
    exact (isMarked_setIfInBounds h).2 (.inr hmarked)

/-! ## The search -/

/-- What a search from some nodes does to the marks: these nodes are marked afterwards, every newly
marked node can be reached from one of them, and its links lead to marked nodes. -/
structure Explores (g : Graph) (roots : List FragmentId) (marks marks' : Array Bool) : Prop where
  size_eq : marks'.size = marks.size
  mono : ∀ id, IsMarked marks id → IsMarked marks' id
  isMarked : ∀ root ∈ roots, IsMarked marks' root
  links : ∀ id, IsMarked marks' id → ¬ IsMarked marks id →
    ∀ next ∈ (g.node id).links, IsMarked marks' next
  reaches : ∀ id, IsMarked marks' id → ¬ IsMarked marks id → ∃ root ∈ roots, g.Reaches root id

namespace Explores

theorem nil (g : Graph) (marks : Array Bool) : g.Explores [] marks marks where
  size_eq := rfl
  mono := fun _ h => h
  isMarked := by simp
  links := fun _ h hnot => absurd h hnot
  reaches := fun _ h hnot => absurd h hnot

/-- A search from one node is followed by a search from others, which finds its marks. -/
theorem cons (h : g.Explores [root] marks marks') (h' : g.Explores roots marks' marks'') :
    g.Explores (root :: roots) marks marks'' where
  size_eq := h'.size_eq.trans h.size_eq
  mono := fun id hid => h'.mono id (h.mono id hid)
  isMarked := by
    intro r hr
    rcases List.mem_cons.1 hr with rfl | hr
    · exact h'.mono r (h.isMarked r List.mem_cons_self)
    · exact h'.isMarked r hr
  links := by
    intro id hid hnot next hnext
    by_cases hmiddle : IsMarked marks' id
    · exact h'.mono next (h.links id hmiddle hnot next hnext)
    · exact h'.links id hid hmiddle next hnext
  reaches := by
    intro id hid hnot
    by_cases hmiddle : IsMarked marks' id
    · obtain ⟨r, hr, hreaches⟩ := h.reaches id hmiddle hnot
      obtain rfl := List.mem_singleton.1 hr
      exact ⟨r, List.mem_cons_self, hreaches⟩
    · obtain ⟨r, hr, hreaches⟩ := h'.reaches id hid hmiddle
      exact ⟨r, List.mem_cons_of_mem _ hr, hreaches⟩

/-- A node that is marked first has been explored when its links have. -/
theorem of_links (hid : id.index < marks.size)
    (h : g.Explores (g.node id).links (marks.setIfInBounds id.index true) marks') :
    g.Explores [id] marks marks' where
  size_eq := by simpa using h.size_eq
  mono := fun other hother => h.mono other ((isMarked_setIfInBounds hid).2 (.inr hother))
  isMarked := by
    intro root hroot
    obtain rfl := List.mem_singleton.1 hroot
    exact h.mono root ((isMarked_setIfInBounds hid).2 (.inl rfl))
  links := by
    intro other hother hnot next hnext
    by_cases heq : other = id
    · subst heq
      exact h.isMarked next hnext
    · refine h.links other hother (fun hset => ?_) next hnext
      exact ((isMarked_setIfInBounds hid).1 hset).elim heq hnot
  reaches := by
    intro other hother hnot
    refine ⟨id, List.mem_singleton_self id, ?_⟩
    by_cases heq : other = id
    · subst heq
      exact Relation.ReflTransGen.refl
    · have hset : ¬ IsMarked (marks.setIfInBounds id.index true) other :=
        fun hset => ((isMarked_setIfInBounds hid).1 hset).elim heq hnot
      obtain ⟨root, hroot, hreaches⟩ := h.reaches other hother hset
      exact Relation.ReflTransGen.head hroot hreaches

end Explores

/-- Searching from one node after the other explores all of them, as long as the budget covers the
nodes that are not marked at the beginning. -/
theorem explores_foldl {budget : Nat} {search : Array Bool → FragmentId → Array Bool}
    (hsearch : ∀ root ∈ roots, ∀ marks : Array Bool, marks.size = g.size →
      (unmarked marks).card ≤ budget → g.Explores [root] marks (search marks root))
    (hsize : marks.size = g.size) (hbudget : (unmarked marks).card ≤ budget) :
    g.Explores roots marks (roots.foldl search marks) := by
  induction roots generalizing marks with
  | nil => exact Explores.nil g marks
  | cons root roots ih =>
      have hfirst := hsearch root List.mem_cons_self marks hsize hbudget
      refine hfirst.cons (ih (fun r hr => hsearch r (List.mem_cons_of_mem _ hr)) ?_ ?_)
      · exact hfirst.size_eq.trans hsize
      · exact (card_unmarked_le hfirst.size_eq hfirst.mono).trans hbudget

/-- A marked node is not searched again. -/
theorem mark_of_isMarked (hid : id.index < marks.size) (hmarked : IsMarked marks id)
    (budget : Nat) : g.mark budget id marks = marks := by
  have hgetD : marks.getD id.index true = true := by
    simpa [IsMarked, hid] using hmarked
  cases budget with
  | zero => rfl
  | succ budget => rw [mark, if_pos hgetD]

/-- A node that is not marked is marked before its links are followed. -/
theorem mark_of_not_isMarked (hid : id.index < marks.size) (hmarked : ¬ IsMarked marks id)
    (budget : Nat) : g.mark (budget + 1) id marks =
      (g.node id).links.foldl (fun marks next => g.mark budget next marks)
        (marks.setIfInBounds id.index true) := by
  have hgetD : ¬ marks.getD id.index true = true := by
    simpa [IsMarked, hid] using hmarked
  rw [mark, if_neg hgetD]

/-- Nothing is to be done for a marked node. -/
theorem Explores.of_isMarked (hmarked : IsMarked marks id) : g.Explores [id] marks marks where
  size_eq := rfl
  mono := fun _ h => h
  isMarked := by
    intro root hroot
    exact List.mem_singleton.1 hroot ▸ hmarked
  links := fun _ h hnot => absurd h hnot
  reaches := fun _ h hnot => absurd h hnot

/-- A budget for all nodes that are not marked is enough: every descent marks one of them. -/
theorem explores_mark (hg : g.IsClosed) {budget : Nat} (hid : g.Has id)
    (hsize : marks.size = g.size) (hbudget : (unmarked marks).card ≤ budget) :
    g.Explores [id] marks (g.mark budget id marks) := by
  have hindex : id.index < marks.size := hsize ▸ hid
  induction budget generalizing id marks with
  | zero =>
      have hempty : unmarked marks = ∅ := Finset.card_eq_zero.1 (Nat.le_zero.1 hbudget)
      have hmarked : IsMarked marks id := by
        by_contra hnot
        have hmem : id.index ∈ unmarked marks := mem_unmarked.2 ⟨hindex, hnot⟩
        simp [hempty] at hmem
      rw [mark_of_isMarked hindex hmarked]
      exact Explores.of_isMarked hmarked
  | succ budget ih =>
      by_cases hmarked : IsMarked marks id
      · rw [mark_of_isMarked hindex hmarked]
        exact Explores.of_isMarked hmarked
      · rw [mark_of_not_isMarked hindex hmarked]
        refine Explores.of_links hindex (@explores_foldl g _ _ budget _ ?_ ?_ ?_)
        · intro next hnext marks hsize hbudget
          exact ih (hg id next hnext) hsize hbudget (hsize ▸ hg id next hnext)
        · simpa using hsize
        · have hless := card_unmarked_set_lt hindex hmarked
          omega

/-- In the beginning no node is marked. -/
theorem not_isMarked_replicate (n : Nat) (id : FragmentId) :
    ¬ IsMarked (Array.replicate n false) id := by
  intro hid
  simp only [IsMarked, Array.getD_eq_getD_getElem?, Array.getElem?_replicate] at hid
  split at hid <;> cases hid

theorem card_unmarked_le_size (marks : Array Bool) : (unmarked marks).card ≤ marks.size := by
  have hsubset : unmarked marks ⊆ Finset.range marks.size := by
    intro i hi
    simpa using (mem_unmarked.1 hi).1
  simpa using Finset.card_le_card hsubset

/-- The search finds the nodes that can be reached, and no others. -/
theorem reachable_iff (hg : g.IsClosed) (hroot : g.Has root) :
    IsMarked (g.reachable root) id ↔ g.Reaches root id := by
  have hnone := not_isMarked_replicate g.size
  have hcard : (unmarked (Array.replicate g.size false)).card ≤ g.size := by
    simpa using card_unmarked_le_size (Array.replicate g.size false)
  have hexplores : g.Explores [root] (Array.replicate g.size false) (g.reachable root) :=
    explores_mark hg hroot (by simp) hcard
  constructor
  · intro hid
    obtain ⟨r, hr, hreaches⟩ := hexplores.reaches id hid (hnone id)
    exact List.mem_singleton.1 hr ▸ hreaches
  · intro hid
    induction hid with
    | refl => exact hexplores.isMarked root (List.mem_singleton_self root)
    | tail _ hnext ih => exact hexplores.links _ ih (hnone _) _ hnext

/-! ## Adoption -/

@[simp]
theorem size_adopt (g : Graph) (registry : RegistryId) (root : FragmentId) :
    (g.adopt registry root).size = g.size := by
  simp [adopt, size]

open Classical in
/-- Adoption points everything that can be reached at the registry and changes nothing else. -/
theorem node_adopt (hg : g.IsClosed) (hroot : g.Has root) (registry : RegistryId)
    (id : FragmentId) : (g.adopt registry root).node id =
      if g.Reaches root id then { g.node id with registry := some registry } else g.node id := by
  by_cases hid : g.Has id
  · have hindex : id.index < g.nodes.size := hid
    have hnode : (g.adopt registry root).node id =
        if (g.reachable root).getD id.index false then
          { g.node id with registry := some registry } else g.node id := by
      simp [adopt, node, hindex]
    rw [hnode]
    exact if_congr (reachable_iff hg hroot) rfl rfl
  · have hreaches : ¬ g.Reaches root id := fun h => hid (has_of_reaches hg hroot h)
    have hindex : g.nodes.size ≤ id.index := Nat.le_of_not_lt hid
    rw [if_neg hreaches]
    simp [adopt, node, hindex]

/-- Adoption changes no links. -/
theorem links_adopt (hg : g.IsClosed) (hroot : g.Has root) (registry : RegistryId)
    (id : FragmentId) : ((g.adopt registry root).node id).links = (g.node id).links := by
  rw [node_adopt hg hroot]
  split <;> rfl

/-- Adoption marks nothing as skipped. -/
theorem skipped_adopt (hg : g.IsClosed) (hroot : g.Has root) (registry : RegistryId)
    (id : FragmentId) : ((g.adopt registry root).node id).skipped = (g.node id).skipped := by
  rw [node_adopt hg hroot]
  split <;> rfl

end Graph

end RegexComposition

import Mathlib.Algebra.GroupWithZero.Nat
import RegexComposition.Proofs.Fragment.Extension

/-!
# Adoption as a walk

An adoption is a walk through the graph.  A call for a node enters the node, points it at the
registry and calls for everything that the node leads to, one after the other; a call for a node
that has been entered before does nothing.  The rules of the walk know no bound on the depth: it
ends because no node is entered twice.

Main results:

- `Adoption.Adopts`: the rules of the walk.
- `Adoption.Adopts.unique`: a walk has one outcome.
- `Adoption.Adopts.tracks`: in the course of a walk nothing changes but the registries of the nodes
  that are entered, and none of them is entered twice.
- `Adoption.Adopts.calls_eq`: how many calls there are.
- `Adoption.exists_adopts_mark`: the search for the reachable nodes marks what is entered.
- `Graph.adopt_walk`: adoption is what the walk comes to.
-/

namespace RegexComposition

/-! ## Nodes that are pointed at a registry -/

namespace Graph

variable {g g' : Graph} {id : FragmentId}

/-- A graph is given by its nodes. -/
theorem eq_of_node_eq (hsize : g'.size = g.size) (h : ∀ id, g.Has id → g'.node id = g.node id) :
    g' = g := by
  obtain ⟨nodes⟩ := g
  obtain ⟨nodes'⟩ := g'
  refine congrArg Graph.mk (Array.ext hsize fun i hi' hi => ?_)
  have hnode := h ⟨i⟩ hi
  simp only [size] at hsize
  simpa [node, hi, hi'] using hnode

/-- The graph in which some nodes have been pointed at a registry, one after the other. -/
def pointed (g : Graph) (r : RegistryId) (ids : List FragmentId) : Graph :=
  ids.foldl (fun g id => g.modify id ({ · with registry := some r })) g

theorem pointed_append_singleton (g : Graph) (r : RegistryId) (ids : List FragmentId)
    (id : FragmentId) : g.pointed r (ids ++ [id]) =
      (g.pointed r ids).modify id ({ · with registry := some r }) := by
  rw [pointed, List.foldl_append]
  rfl

@[simp]
theorem size_pointed (g : Graph) (r : RegistryId) (ids : List FragmentId) :
    (g.pointed r ids).size = g.size := by
  induction ids using List.reverseRecOn with
  | nil => rfl
  | append_singleton ids id ih => rw [pointed_append_singleton, size_modify, ih]

@[simp]
theorem has_pointed {r : RegistryId} {ids : List FragmentId} :
    (g.pointed r ids).Has id ↔ g.Has id := by
  simp [Has]

/-- A node that has been pointed at the registry is otherwise the same, and all other nodes are as
before. -/
theorem node_pointed (hid : g.Has id) (r : RegistryId) (ids : List FragmentId) :
    (g.pointed r ids).node id =
      if id ∈ ids then { g.node id with registry := some r } else g.node id := by
  induction ids using List.reverseRecOn with
  | nil => rfl
  | append_singleton ids last ih =>
      rw [pointed_append_singleton]
      by_cases hlast : id = last
      · subst hlast
        rw [node_modify_self (has_pointed.2 hid), ih]
        split <;> simp
      · rw [node_modify_of_ne hlast, ih]
        simp [hlast]

theorem links_pointed (g : Graph) (r : RegistryId) (ids : List FragmentId) (id : FragmentId) :
    ((g.pointed r ids).node id).links = (g.node id).links := by
  induction ids using List.reverseRecOn with
  | nil => rfl
  | append_singleton ids last ih =>
      rw [pointed_append_singleton, ← ih]
      exact @observe_modify ({ · with registry := some r }) _ Node.links (fun _ => rfl) _ _ _

end Graph

/-! ## Walks -/

/-- How far an adoption has come. -/
structure Adoption where
  graph : Graph
  /-- The nodes that have been entered, in this order. -/
  entered : List FragmentId
  /-- The number of calls so far. -/
  calls : Nat

namespace Adoption

/-- A call that finds its node entered. -/
def pass (a : Adoption) : Adoption := { a with calls := a.calls + 1 }

/-- A call that enters its node and points it at the registry. -/
def enter (a : Adoption) (r : RegistryId) (id : FragmentId) : Adoption where
  graph := a.graph.modify id ({ · with registry := some r })
  entered := a.entered ++ [id]
  calls := a.calls + 1

/-- Calls for some nodes, one after the other.  A call for a node that has not been entered is
followed by the calls for everything that the node leads to. -/
inductive Adopts (r : RegistryId) : List FragmentId → Adoption → Adoption → Prop
  | done (a : Adoption) : Adopts r [] a a
  | pass {id : FragmentId} {ids : List FragmentId} {a b : Adoption} :
      id ∈ a.entered → Adopts r ids a.pass b → Adopts r (id :: ids) a b
  | enter {id : FragmentId} {ids : List FragmentId} {a b c : Adoption} :
      id ∉ a.entered → Adopts r ((a.enter r id).graph.node id).links (a.enter r id) b →
      Adopts r ids b c → Adopts r (id :: ids) a c

variable {g : Graph} {r : RegistryId} {id : FragmentId} {ids ids' : List FragmentId}
variable {a b c : Adoption} {marks : Array Bool} {budget : Nat}

/-- Calls for some nodes can be followed by calls for others. -/
theorem Adopts.append (h : Adopts r ids a b) (h' : Adopts r ids' b c) :
    Adopts r (ids ++ ids') a c := by
  induction h with
  | done a => exact h'
  | pass hid _ ih => exact .pass hid (ih h')
  | enter hid hlinks _ _ ih => exact .enter hid hlinks (ih h')

/-- A walk has one outcome. -/
theorem Adopts.unique (h : Adopts r ids a b) (h' : Adopts r ids a c) : c = b := by
  induction h generalizing c with
  | done a =>
      cases h'
      rfl
  | pass hid _ ih =>
      cases h' with
      | pass _ hrest => exact ih hrest
      | enter hnot _ _ => exact absurd hid hnot
  | enter hnot _ _ ihlinks ih =>
      cases h' with
      | pass hid _ => exact absurd hid hnot
      | enter _ hlinks hrest =>
          obtain rfl := ihlinks hlinks
          exact ih hrest

/-! ## What a walk changes -/

/-- The nodes that have been entered were entered once each, and all that has been done to the graph
is that they have been pointed at the registry. -/
structure Tracks (g : Graph) (r : RegistryId) (a : Adoption) : Prop where
  graph_eq : a.graph = g.pointed r a.entered
  nodup : a.entered.Nodup

namespace Tracks

theorem start (g : Graph) (r : RegistryId) : Tracks g r ⟨g, [], 0⟩ := ⟨rfl, List.nodup_nil⟩

theorem pass (h : Tracks g r a) : Tracks g r a.pass := ⟨h.graph_eq, h.nodup⟩

theorem enter (h : Tracks g r a) (hid : id ∉ a.entered) : Tracks g r (a.enter r id) where
  graph_eq := by rw [Adoption.enter, Graph.pointed_append_singleton, ← h.graph_eq]
  nodup := by
    rw [Adoption.enter, ← List.concat_eq_append]
    exact h.nodup.concat hid

theorem links (h : Tracks g r a) (id : FragmentId) :
    (a.graph.node id).links = (g.node id).links := by
  rw [h.graph_eq, Graph.links_pointed]

end Tracks

theorem Adopts.tracks (h : Adopts r ids a b) (ha : Tracks g r a) : Tracks g r b := by
  induction h with
  | done a => exact ha
  | pass _ _ ih => exact ih ha.pass
  | enter hid _ _ ihlinks ih => exact ih (ihlinks (ha.enter hid))

/-- The number of links that lead away from some nodes. -/
def linkCount (g : Graph) (ids : List FragmentId) : Nat :=
  (ids.map fun id => (g.node id).links.length).sum

/-- There is one call for each node that is asked for and one for each link of a node that is
entered. -/
theorem Adopts.calls_eq (h : Adopts r ids a b) (ha : Tracks g r a) :
    b.calls + linkCount g a.entered = a.calls + ids.length + linkCount g b.entered := by
  induction h with
  | done a => rfl
  | pass hid _ ih =>
      have hrest := ih ha.pass
      simp only [Adoption.pass, List.length_cons] at hrest ⊢
      omega
  | @enter id ids a b c hid hlinks _ ihlinks ih =>
      have hentered := ha.enter hid
      have hfirst := ihlinks hentered
      have hrest := ih (hlinks.tracks hentered)
      rw [hentered.links] at hfirst
      have hcount : linkCount g (a.enter r id).entered =
          linkCount g a.entered + (g.node id).links.length := by
        simp [linkCount, Adoption.enter]
      have hcalls : (a.enter r id).calls = a.calls + 1 := rfl
      simp only [List.length_cons]
      omega

/-! ## The walk and the search -/

/-- The marked nodes of the graph are those that have been entered. -/
structure Marks (g : Graph) (a : Adoption) (marks : Array Bool) : Prop where
  size_eq : marks.size = g.size
  isMarked_iff : ∀ id, Graph.IsMarked marks id ↔ id ∈ a.entered

theorem Marks.enter (h : Marks g a marks) (hid : g.Has id) (r : RegistryId) :
    Marks g (a.enter r id) (marks.setIfInBounds id.index true) where
  size_eq := by simpa using h.size_eq
  isMarked_iff := by
    intro other
    have hindex : id.index < marks.size := h.size_eq ▸ hid
    rw [Graph.isMarked_setIfInBounds hindex, h.isMarked_iff, Adoption.enter, List.mem_append,
      List.mem_singleton, or_comm]

/-- For a node that is marked the search does nothing, as does a call for a node that has been
entered. -/
theorem Marks.exists_adopts (h : Marks g a marks) (hid : g.Has id)
    (hmarked : Graph.IsMarked marks id) (budget : Nat) :
    ∃ b, Adopts r [id] a b ∧ Marks g b (g.mark budget id marks) := by
  rw [Graph.mark_of_isMarked (h.size_eq ▸ hid) hmarked]
  exact ⟨a.pass, .pass ((h.isMarked_iff id).1 hmarked) (.done _), h.size_eq, h.isMarked_iff⟩

/-- If the search from each node of a list marks what a walk from there enters, then the searches
one after the other mark what a walk for the whole list enters. -/
theorem exists_adopts_foldl (hg : g.IsClosed) (hids : ∀ id ∈ ids, g.Has id)
    (hsearch : ∀ id ∈ ids, ∀ a marks, Tracks g r a → Marks g a marks →
      (Graph.unmarked marks).card ≤ budget →
        ∃ b, Adopts r [id] a b ∧ Marks g b (g.mark budget id marks))
    (ha : Tracks g r a) (hmarks : Marks g a marks)
    (hbudget : (Graph.unmarked marks).card ≤ budget) :
    ∃ b, Adopts r ids a b ∧
      Marks g b (ids.foldl (fun marks next => g.mark budget next marks) marks) := by
  induction ids generalizing a marks with
  | nil => exact ⟨a, .done a, hmarks⟩
  | cons id ids ih =>
      obtain ⟨b, hfirst, hmarks'⟩ := hsearch id List.mem_cons_self a marks ha hmarks hbudget
      have hexplores := Graph.explores_mark hg (hids id List.mem_cons_self) hmarks.size_eq hbudget
      have hless := Graph.card_unmarked_le hexplores.size_eq hexplores.mono
      obtain ⟨c, hrest, hmarks''⟩ := ih (fun id hid => hids id (List.mem_cons_of_mem _ hid))
        (fun id hid => hsearch id (List.mem_cons_of_mem _ hid)) (hfirst.tracks ha) hmarks'
        (hless.trans hbudget)
      exact ⟨c, hfirst.append hrest, hmarks''⟩

/-- A search whose budget covers the unmarked nodes marks what the walk enters.  In particular the
walk comes to an end. -/
theorem exists_adopts_mark (hg : g.IsClosed) (hid : g.Has id) (ha : Tracks g r a)
    (hmarks : Marks g a marks) (hbudget : (Graph.unmarked marks).card ≤ budget) :
    ∃ b, Adopts r [id] a b ∧ Marks g b (g.mark budget id marks) := by
  have hindex : id.index < marks.size := hmarks.size_eq ▸ hid
  induction budget generalizing id a marks with
  | zero =>
      have hmarked : Graph.IsMarked marks id := by
        by_contra hnot
        have hmem : id.index ∈ Graph.unmarked marks := Graph.mem_unmarked.2 ⟨hindex, hnot⟩
        exact absurd hbudget (Nat.not_le_of_lt (Finset.card_pos.2 ⟨_, hmem⟩))
      exact hmarks.exists_adopts hid hmarked 0
  | succ budget ih =>
      by_cases hmarked : Graph.IsMarked marks id
      · exact hmarks.exists_adopts hid hmarked (budget + 1)
      · rw [Graph.mark_of_not_isMarked hindex hmarked]
        have hnot : id ∉ a.entered := mt (hmarks.isMarked_iff id).2 hmarked
        have hless := Graph.card_unmarked_set_lt hindex hmarked
        obtain ⟨b, hlinks, hmarks'⟩ := exists_adopts_foldl hg (hg id)
          (fun next hnext a marks ha hmarks hbudget =>
            ih (hg id next hnext) ha hmarks hbudget (hmarks.size_eq ▸ hg id next hnext))
          (ha.enter hnot) (hmarks.enter hid r) (by omega)
        rw [← (ha.enter hnot).links] at hlinks
        exact ⟨b, .enter hnot hlinks (.done b), hmarks'⟩

end Adoption

/-! ## Adoption -/

namespace Graph

open Adoption

variable {g : Graph} {root : FragmentId}

/-- Adoption is what the walk that starts with a call for the root comes to.

The walk ends, and in one way only: there is exactly one outcome.  Once each it enters the nodes
that can be reached from the root through alternatives, children, and what a forward reference is
about and its end, and it enters no others; there is one call for the root and one for each link of
these nodes.  They are pointed at the registry and are otherwise unchanged; all other nodes are as
they were. -/
theorem adopt_walk (hg : g.IsClosed) (hroot : g.Has root) (r : RegistryId) :
    ∃ entered calls,
      (∀ outcome, Adopts r [root] ⟨g, [], 0⟩ outcome ↔
        outcome = ⟨g.adopt r root, entered, calls⟩) ∧
      entered.Nodup ∧ (∀ id, id ∈ entered ↔ g.Reaches root id) ∧
      calls = 1 + (entered.map fun id => (g.node id).links.length).sum ∧
      (g.adopt r root).size = g.size ∧
      (∀ id, g.Reaches root id →
        (g.adopt r root).node id = { g.node id with registry := some r }) ∧
      ∀ id, ¬ g.Reaches root id → (g.adopt r root).node id = g.node id := by
  classical
  have hnone : Marks g ⟨g, [], 0⟩ (Array.replicate g.size false) :=
    ⟨by simp, fun id => iff_of_false (not_isMarked_replicate _ id) List.not_mem_nil⟩
  obtain ⟨outcome, hwalk, hmarks⟩ := exists_adopts_mark hg hroot (Tracks.start g r) hnone
    (by simpa using card_unmarked_le_size (Array.replicate g.size false))
  have hentered : ∀ id, id ∈ outcome.entered ↔ g.Reaches root id :=
    fun id => (hmarks.isMarked_iff id).symm.trans (reachable_iff hg hroot)
  have htracks := hwalk.tracks (Tracks.start g r)
  have hgraph : outcome.graph = g.adopt r root := by
    rw [htracks.graph_eq]
    refine eq_of_node_eq (by simp) fun id hid => ?_
    rw [node_pointed (has_adopt.1 hid), node_adopt hg hroot]
    exact if_congr (hentered id) rfl rfl
  have hcalls := hwalk.calls_eq (Tracks.start g r)
  refine ⟨outcome.entered, outcome.calls, fun other => ?_, htracks.nodup, hentered, ?_,
    size_adopt g r root, fun id hid => ?_, fun id hid => ?_⟩
  · rw [← hgraph]
    exact ⟨fun h => hwalk.unique h, fun h => h ▸ hwalk⟩
  · simpa [linkCount] using hcalls
  · rw [node_adopt hg hroot, if_pos hid]
  · rw [node_adopt hg hroot, if_neg hid]

/-- A pattern and its alternative, which contains the pattern twice and a forward reference to
itself, and a composite of the alternative. -/
def cyclic : Graph := ⟨#[
  { kind := .native (.ofSource "a"), alternatives := [⟨1⟩] },
  { kind := .composite [⟨0⟩, ⟨0⟩, ⟨3⟩] },
  { kind := .expressionEnd },
  { kind := .upTo ⟨1⟩ ⟨2⟩ .ahead },
  { kind := .composite [⟨1⟩] }]⟩

theorem adopt_walk_cyclic : ∃ entered,
    Adopts ⟨0⟩ [⟨0⟩] ⟨cyclic, [], 0⟩ ⟨cyclic.adopt ⟨0⟩ ⟨0⟩, entered, 7⟩ ∧
    entered.Perm [⟨0⟩, ⟨1⟩, ⟨2⟩, ⟨3⟩] ∧
    (cyclic.adopt ⟨0⟩ ⟨0⟩).node ⟨3⟩ = { cyclic.node ⟨3⟩ with registry := some ⟨0⟩ } ∧
    (cyclic.adopt ⟨0⟩ ⟨0⟩).node ⟨4⟩ = cyclic.node ⟨4⟩ := by
  have hclosed : cyclic.IsClosed := by decide +kernel
  have hroot : cyclic.Has ⟨0⟩ := by decide
  have hmarks : cyclic.reachable ⟨0⟩ = #[true, true, true, true, false] := by decide +kernel
  have hreaches : ∀ id, cyclic.Reaches ⟨0⟩ id ↔ id ∈ [⟨0⟩, ⟨1⟩, ⟨2⟩, ⟨3⟩] := by
    intro id
    rw [← reachable_iff hclosed hroot, hmarks]
    obtain ⟨_ | _ | _ | _ | _ | i⟩ := id <;> simp [IsMarked]
  obtain ⟨entered, calls, hwalk, hnodup, hentered, hcalls, -, hpointed, hother⟩ :=
    adopt_walk hclosed hroot ⟨0⟩
  have hperm : entered.Perm [⟨0⟩, ⟨1⟩, ⟨2⟩, ⟨3⟩] := by
    refine (List.perm_ext_iff_of_nodup hnodup (by decide)).2 fun id => ?_
    rw [hentered, hreaches]
  obtain rfl : calls = 7 := by
    rw [hcalls, (hperm.map _).sum_nat]
    rfl
  exact ⟨entered, (hwalk _).2 rfl, hperm, hpointed ⟨3⟩ ((hreaches ⟨3⟩).2 (by decide)),
    hother ⟨4⟩ (mt (hreaches ⟨4⟩).1 (by decide))⟩

end Graph

end RegexComposition

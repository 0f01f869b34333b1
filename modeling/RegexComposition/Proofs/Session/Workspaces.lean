import RegexComposition.Builder
import RegexComposition.Proofs.Fragment.Extension
import RegexComposition.Proofs.Registry.Lookup
import RegexComposition.Proofs.Session.Run

/-!
# Workspaces

A workspace is sound if it refers only to fragments that it has.  It is extended by additions, which
change nothing that was there before, and by one more or one less user of a registry.  Naming,
skipping and adding an alternative do more than that.

Main results:

- `Workspace.IsSound`: nothing refers to a fragment that does not exist.
- `Workspace.Extends`: nothing that was there before has been changed.
- `Workspace.IsSound.named`, `Workspace.IsSound.marked`: naming and marking keep a workspace sound.
- `Workspace.not_registers_skipTarget`: the fragment that is skipped has no other name.
-/

namespace RegexComposition

/-! ## Soundness -/

namespace Workspace

variable {w w' w'' : Workspace} {r r' : RegistryId} {id : FragmentId}

/-- The registry has been made. -/
def HasRegistry (w : Workspace) (r : RegistryId) : Prop := r.index < w.registries.size

instance (w : Workspace) (r : RegistryId) : Decidable (w.HasRegistry r) :=
  inferInstanceAs (Decidable (r.index < w.registries.size))

/-- Nothing refers to a fragment that does not exist. -/
structure IsSound (w : Workspace) : Prop where
  isClosed : w.graph.IsClosed
  has : ∀ r id, (w.names r).Registers id → w.graph.Has id

theorem isSound_empty : empty.IsSound where
  isClosed := fun _ _ hnext => nomatch hnext
  has := fun _ id h => absurd h (Registry.not_registers_empty id)

/-! ## Extensions -/

/-- Nothing that was there before has been changed, apart from the users of registries. -/
structure Extends (w w' : Workspace) : Prop where
  graph : w.graph.Extends w'.graph
  names : ∀ r, w'.names r = w.names r
  size_le : w.registries.size ≤ w'.registries.size

namespace Extends

theorem refl (w : Workspace) : w.Extends w where
  graph := Graph.Extends.refl _
  names := fun _ => rfl
  size_le := Nat.le_refl _

theorem trans (h : w.Extends w') (h' : w'.Extends w'') : w.Extends w'' where
  graph := h.graph.trans h'.graph
  names := fun r => (h'.names r).trans (h.names r)
  size_le := h.size_le.trans h'.size_le

theorem of_graph {g : Graph} (h : w.graph.Extends g) : w.Extends { w with graph := g } where
  graph := h
  names := fun _ => rfl
  size_le := Nat.le_refl _

theorem isSound (h : w.Extends w') (hw : w.IsSound) (hclosed : w'.graph.IsClosed) :
    w'.IsSound where
  isClosed := hclosed
  has := by
    intro r id hid
    rw [h.names] at hid
    exact h.graph.has (hw.has r id hid)

end Extends

/-- A change of the users of a registry. -/
theorem extends_modify_users (w : Workspace) (r : RegistryId) (f : Nat → Nat) :
    w.Extends { w with registries := w.registries.modify r.index fun e =>
      { e with users := f e.users } } where
  graph := Graph.Extends.refl _
  names := by
    intro r'
    rcases names_modify w r r' _ with hsame | ⟨rfl, hentry⟩
    · exact hsame
    · exact hentry
  size_le := by simp

theorem extends_acquire (w : Workspace) (r : RegistryId) : w.Extends (w.acquire r) :=
  w.extends_modify_users r (· + 1)

theorem extends_release (w : Workspace) (r : RegistryId) : w.Extends (w.release r) :=
  w.extends_modify_users r (· - 1)

theorem extends_addRegistry (w : Workspace) : w.Extends w.addRegistry.2 where
  graph := Graph.Extends.refl _
  names := w.names_addRegistry
  size_le := by simp [addRegistry]

/-- A registry that does not exist has no users. -/
theorem hasRegistry_of_isLive (h : w.isLive r = true) : w.HasRegistry r := by
  by_contra hnot
  have hsize : w.registries.size ≤ r.index := Nat.le_of_not_lt hnot
  simp [isLive, hsize, default, instInhabitedRegistryEntry.default] at h

/-- A registry that does not exist has no names. -/
theorem names_of_not_hasRegistry (h : ¬ w.HasRegistry r) : w.names r = Registry.empty := by
  have hsize : w.registries.size ≤ r.index := Nat.le_of_not_lt h
  simp [names, hsize, default, instInhabitedRegistryEntry.default]

end Workspace

/-! ## Changes -/

/-- The composite of some fragments, and the graph with it, adopted. -/
def Graph.combined (g : Graph) (r : RegistryId) (ids : List FragmentId) : FragmentId × Graph :=
  ((g.addComposite ids).1, (g.addComposite ids).2.adopt r (g.addComposite ids).1)

namespace Workspace

variable {w : Workspace} {r r' : RegistryId} {id : FragmentId}

/-- The workspace with other names in a registry and a fragment that has been adopted. -/
def named (w : Workspace) (r : RegistryId) (names : Registry) (id : FragmentId) : Workspace :=
  { w.setNames r names with graph := w.graph.adopt r id }

/-- The fragment that is skipped in place of a given one, and the workspace with it: a fragment
that is registered already is wrapped. -/
def skipTarget (w : Workspace) (r : RegistryId) (target : FragmentId) : FragmentId × Workspace :=
  if (w.names r).containsFragment target then
    ((w.graph.addWrapper target Modifiers.none).1,
      { w with graph := (w.graph.addWrapper target Modifiers.none).2 })
  else (target, w)

/-- The workspace with a fragment that has been marked as skipped. -/
def marked (w : Workspace) (id : FragmentId) : Workspace :=
  { w with graph := w.graph.modify id ({ · with skipped := true }) }

/-- The workspace with other names in a registry and a fragment that has been marked as skipped and
adopted. -/
def skipped (w : Workspace) (r : RegistryId) (names : Registry) (id : FragmentId) : Workspace :=
  (w.marked id).named r names id

/-- The registry that is used for additions to a fragment: its own one as long as that is in use,
and a new one otherwise. -/
def registryFor (w : Workspace) (id : FragmentId) : RegistryId :=
  ((w.graph.node id).registry.filter w.isLive).getD w.addRegistry.1

theorem registryFor_of_isLive (hid : (w.graph.node id).registry = some r)
    (hlive : w.isLive r = true) : w.registryFor id = r := by
  rw [registryFor, hid, Option.filter_some, if_pos hlive, Option.getD_some]

/-- The workspace with an alternative made of some fragments, and with one user less. -/
def branched (w : Workspace) (r : RegistryId) (id : FragmentId) (children : List FragmentId) :
    Workspace :=
  { w.release r with
    graph := (w.graph.combined r children).2.pushAlternative id (w.graph.combined r children).1 }

@[simp]
theorem graph_named (w : Workspace) (r : RegistryId) (names : Registry) (id : FragmentId) :
    (w.named r names id).graph = w.graph.adopt r id := rfl

@[simp]
theorem graph_skipped (w : Workspace) (r : RegistryId) (names : Registry) (id : FragmentId) :
    (w.skipped r names id).graph = (w.marked id).graph.adopt r id := rfl

@[simp]
theorem graph_branched (w : Workspace) (r : RegistryId) (id : FragmentId)
    (children : List FragmentId) : (w.branched r id children).graph =
      (w.graph.combined r children).2.pushAlternative id (w.graph.combined r children).1 := rfl

@[simp]
theorem names_branched (w : Workspace) (r r' : RegistryId) (id : FragmentId)
    (children : List FragmentId) : (w.branched r id children).names r' = w.names r' :=
  (w.extends_release r).names r'

/-- Only the names of the given registry are replaced. -/
theorem names_setNames (hr : w.HasRegistry r) (names : Registry) (r' : RegistryId) :
    (w.setNames r names).names r' = if r' = r then names else w.names r' := by
  obtain ⟨i⟩ := r
  obtain ⟨j⟩ := r'
  simp only [setNames, Workspace.names, Array.getD_eq_getD_getElem?, Array.getElem?_modify,
    RegistryId.mk.injEq]
  by_cases h : i = j
  · subst h
    have hindex : i < w.registries.size := hr
    simp [hindex]
  · simp [h, Ne.symm h]

@[simp]
theorem hasRegistry_named {names : Registry} :
    (w.named r names id).HasRegistry r' ↔ w.HasRegistry r' := by
  simp [HasRegistry, named, setNames]

@[simp]
theorem hasRegistry_skipped {names : Registry} :
    (w.skipped r names id).HasRegistry r' ↔ w.HasRegistry r' :=
  hasRegistry_named

@[simp]
theorem names_named (hr : w.HasRegistry r) (names : Registry) (r' : RegistryId) :
    (w.named r names id).names r' = if r' = r then names else w.names r' :=
  names_setNames hr names r'

@[simp]
theorem names_skipped (hr : w.HasRegistry r) (names : Registry) (r' : RegistryId) :
    (w.skipped r names id).names r' = if r' = r then names else w.names r' :=
  names_setNames (w := w.marked id) hr names r'

@[simp]
theorem has_marked {other : FragmentId} : (w.marked id).graph.Has other ↔ w.graph.Has other :=
  Graph.has_modify

theorem links_marked (w : Workspace) (id other : FragmentId) :
    ((w.marked id).graph.node other).links = (w.graph.node other).links :=
  @Graph.observe_modify ({ · with skipped := true }) _ Node.links (fun _ => rfl) w.graph id other

theorem registry_marked (w : Workspace) (id other : FragmentId) :
    ((w.marked id).graph.node other).registry = (w.graph.node other).registry :=
  @Graph.observe_modify ({ · with skipped := true }) _ Node.registry (fun _ => rfl) w.graph id other

/-- A fragment is put in place of a registered one by additions only. -/
theorem extends_skipTarget (w : Workspace) (r : RegistryId) (target : FragmentId) :
    w.Extends (w.skipTarget r target).2 := by
  unfold skipTarget
  split
  · exact .of_graph (Graph.extends_addWrapper _ _ _)
  · exact .of_graph (Graph.Extends.refl _)

theorem has_skipTarget {target : FragmentId} (h : w.graph.Has target) (r : RegistryId) :
    (w.skipTarget r target).2.graph.Has (w.skipTarget r target).1 := by
  unfold skipTarget
  split
  · exact Graph.has_addWrapper_self _ _ _
  · exact h

theorem isClosed_skipTarget {target : FragmentId} (hw : w.graph.IsClosed)
    (h : w.graph.Has target) (r : RegistryId) : (w.skipTarget r target).2.graph.IsClosed := by
  unfold skipTarget
  split
  · exact Graph.isClosed_addWrapper hw h _
  · exact hw

/-- No registry has the fragment that is skipped, unless it has the given one while the registry in
which that is skipped does not. -/
theorem not_registers_skipTarget (hw : w.IsSound) {target : FragmentId}
    (htarget : (w.names r').Registers target → (w.names r).Registers target) :
    ¬ ((w.skipTarget r target).2.names r').Registers (w.skipTarget r target).1 := by
  rw [(w.extends_skipTarget r target).names r']
  unfold skipTarget
  split
  · exact fun h => Graph.not_has_addComposite w.graph [target] (hw.has r' _ h)
  · next hfree => exact fun h => hfree (Registry.containsFragment_iff.2 (htarget h))

theorem IsSound.named {c : NameClass} {name : String} {names : Registry} (hw : w.IsSound)
    (hr : w.HasRegistry r) (hid : w.graph.Has id)
    (hnames : (w.names r).insert? c name id = .ok names) : (w.named r names id).IsSound where
  isClosed := Graph.isClosed_adopt hw.isClosed hid r
  has := by
    intro r' id' hregisters
    rw [names_named hr] at hregisters
    refine Graph.has_adopt.2 ?_
    split at hregisters
    · rcases (Registry.inserts_of_insert? hnames).registers_iff.1 hregisters with rfl | hbefore
      · exact hid
      · exact hw.has r id' hbefore
    · exact hw.has r' id' hregisters

theorem IsSound.modify {f : Node → Node} (hw : w.IsSound) (hf : ∀ n, (f n).links = n.links)
    (id : FragmentId) : IsSound { w with graph := w.graph.modify id f } where
  isClosed := Graph.isClosed_modify hw.isClosed id hf
  has := fun r id' hid' => Graph.has_modify.2 (hw.has r id' hid')

theorem IsSound.marked (hw : w.IsSound) (id : FragmentId) : (w.marked id).IsSound :=
  hw.modify (f := ({ · with skipped := true })) (fun _ => rfl) id

end Workspace

end RegexComposition

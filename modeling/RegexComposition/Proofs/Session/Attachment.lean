import RegexComposition.Proofs.Session.Conduct

/-!
# Attached fragments

A fragment looks names up in the registry that it has last been adopted into.  Everything below a
registered fragment is meant to look names up in the registry where it is registered.  Adoption
takes in all that can be reached, also what belongs to another registry, and an addition to a
fragment without a registry adopts what it is made of into a temporary one.

Main results:

- `Workspace.BelongsTo`: the node is registered or lies below a registered fragment.
- `Workspace.IsAttached`: whatever belongs to a registry looks names up in it.
- `Moment.KeepsAway`: no other registry adopts what belongs to a registry.
- `Obeys.attached`: under this condition whatever belongs to a registry is attached to it.
- `not_attached_shareUnattached`: without the condition this fails.
-/

namespace RegexComposition

variable {σ τ α : Type}

open Chronicle

namespace Workspace

variable {w w' : Workspace} {r r' : RegistryId} {id other : FragmentId}

/-! ## What belongs to a registry -/

/-- The node is registered or lies below a registered fragment. -/
def BelongsTo (w : Workspace) (r : RegistryId) (id : FragmentId) : Prop :=
  ∃ root, (w.names r).Registers root ∧ w.graph.Reaches root id

/-- Whatever belongs to the registry looks names up in it. -/
def IsAttached (w : Workspace) (r : RegistryId) : Prop :=
  ∀ id, w.BelongsTo r id → (w.graph.node id).registry = some r

/-- Nothing below the node belongs to the registry. -/
def Apart (w : Workspace) (r : RegistryId) (id : FragmentId) : Prop :=
  ∀ other, w.graph.Reaches id other → ¬ w.BelongsTo r other

theorem BelongsTo.has (h : w.BelongsTo r id) (hw : w.IsSound) : w.graph.Has id := by
  obtain ⟨root, hroot, hreaches⟩ := h
  exact Graph.has_of_reaches hw.isClosed (hw.has r root hroot) hreaches

/-- What belongs to a registry depends on its names and on the links. -/
theorem belongsTo_congr (hnames : w'.names r = w.names r)
    (hlinks : ∀ id, (w'.graph.node id).links = (w.graph.node id).links) :
    w'.BelongsTo r id ↔ w.BelongsTo r id := by
  have hreaches : ∀ root, w'.graph.Reaches root id ↔ w.graph.Reaches root id :=
    fun root => Graph.reaches_iff_of_links fun id _ => hlinks id
  simp only [BelongsTo, hnames, hreaches]

theorem IsAttached.congr (h : w.IsAttached r) (hnames : w'.names r = w.names r)
    (hlinks : ∀ id, (w'.graph.node id).links = (w.graph.node id).links)
    (hregistry : ∀ id, (w'.graph.node id).registry = (w.graph.node id).registry) :
    w'.IsAttached r := by
  intro id hid
  rw [hregistry]
  exact h id ((belongsTo_congr hnames hlinks).1 hid)

/-- Additions make nothing belong to a registry. -/
theorem Extends.belongsTo_iff (h : w.Extends w') (hw : w.IsSound) :
    w'.BelongsTo r id ↔ w.BelongsTo r id := by
  simp only [BelongsTo, h.names]
  refine exists_congr fun root => and_congr_right fun hroot => ?_
  exact h.graph.reaches_iff hw.isClosed (hw.has r root hroot)

theorem Extends.isAttached (h : w.Extends w') (hw : w.IsSound) (hattached : w.IsAttached r) :
    w'.IsAttached r := by
  intro id hid
  have hbefore := (h.belongsTo_iff hw).1 hid
  rw [h.graph.registry (hbefore.has hw)]
  exact hattached id hbefore

theorem Apart.congr (h : w.Apart r id) (hnames : w'.names r = w.names r)
    (hlinks : ∀ id, (w'.graph.node id).links = (w.graph.node id).links) : w'.Apart r id := by
  intro other hreaches hbelongs
  refine h other ?_ ((belongsTo_congr hnames hlinks).1 hbelongs)
  exact (Graph.reaches_iff_of_links fun id _ => hlinks id).1 hreaches

/-- A new node is apart from a registry if its parts are. -/
theorem Apart.of_places {kind : FragmentKind} {g : Graph} (hplaces : w.graph.Places kind id g)
    (hw : w.IsSound) (hparts : ∀ part ∈ kind.parts, w.Apart r part) :
    Apart { w with graph := g } r id := by
  have hextends : w.Extends { w with graph := g } := .of_graph hplaces.extends_graph
  intro other hreaches hbelongs
  rw [hextends.belongsTo_iff hw] at hbelongs
  rcases hreaches.cases_head with rfl | ⟨part, hpart, hreaches⟩
  · exact hplaces.isNew (hbelongs.has hw)
  · rw [hplaces.links] at hpart
    refine hparts part hpart other ?_ hbelongs
    exact (hplaces.extends_graph.reaches_iff hw.isClosed (hplaces.has_of_mem part hpart)).1 hreaches

theorem Apart.marked (h : w.Apart r id) : (w.marked other).Apart r id :=
  h.congr rfl (w.links_marked other)

theorem IsAttached.marked (h : w.IsAttached r) : (w.marked other).IsAttached r :=
  h.congr rfl (w.links_marked other) (w.registry_marked other)

/-- What is skipped in place of a registered fragment is apart from a registry if that is. -/
theorem Apart.skipTarget (h : w.Apart r id) (hw : w.IsSound) (hid : w.graph.Has id)
    (r' : RegistryId) : (w.skipTarget r' id).2.Apart r (w.skipTarget r' id).1 := by
  unfold Workspace.skipTarget
  split
  · refine .of_places (Graph.places_addWrapper hw.isClosed hid _) hw fun part hpart => ?_
    obtain rfl : part = id := by simpa [FragmentKind.parts] using hpart
    exact h
  · exact h

/-! ## Adoption -/

/-- Adoption keeps a registry attached if it is the adopting one or apart from what is adopted. -/
theorem IsAttached.adopt (h : w.IsAttached r) (hw : w.graph.IsClosed) (hid : w.graph.Has id)
    (hkeeps : r' = r ∨ w.Apart r id) : IsAttached { w with graph := w.graph.adopt r' id } r := by
  intro other hother
  have hiff : BelongsTo { w with graph := w.graph.adopt r' id } r other ↔ w.BelongsTo r other :=
    belongsTo_congr rfl (Graph.links_adopt hw hid r')
  have hbefore := hiff.1 hother
  rw [Graph.node_adopt hw hid]
  split
  · next hreaches =>
      rcases hkeeps with rfl | hapart
      · rfl
      · exact absurd hbefore (hapart other hreaches)
  · exact h other hbefore

/-- Giving a name keeps a registry attached under the same condition. -/
theorem IsAttached.named {c : NameClass} {name : String} {names : Registry} (h : w.IsAttached r)
    (hw : w.IsSound) (hr' : w.HasRegistry r') (hid : w.graph.Has id)
    (hnames : (w.names r').insert? c name id = .ok names) (hkeeps : r' = r ∨ w.Apart r id) :
    (w.named r' names id).IsAttached r := by
  have hadopted := h.adopt hw.isClosed hid hkeeps
  rintro other ⟨root, hroot, hreaches⟩
  rw [names_named hr'] at hroot
  by_cases heq : r = r'
  · subst heq
    rw [if_pos rfl] at hroot
    rcases (Registry.inserts_of_insert? hnames).registers_iff.1 hroot with rfl | hbefore
    · have hlinks : w.graph.Reaches root other :=
        (Graph.reaches_iff_of_links fun id _ => Graph.links_adopt hw.isClosed hid r id).1 hreaches
      rw [graph_named, Graph.node_adopt hw.isClosed hid, if_pos hlinks]
    · exact hadopted other ⟨root, hbefore, hreaches⟩
  · rw [if_neg heq] at hroot
    exact hadopted other ⟨root, hroot, hreaches⟩

end Workspace

/-- A new composite makes nothing belong to a registry. -/
theorem Workspace.belongsTo_combined {r r' : RegistryId} {id : FragmentId}
    {children : List FragmentId} (w : Workspace) (hw : w.IsSound)
    (hchildren : ∀ child ∈ children, w.graph.Has child) :
    BelongsTo { w with graph := (w.graph.combined r' children).2 } r id ↔ w.BelongsTo r id := by
  have hplaces := Graph.places_addComposite hw.isClosed hchildren
  have hextends : w.Extends { w with graph := (w.graph.addComposite children).2 } :=
    .of_graph hplaces.extends_graph
  rw [← hextends.belongsTo_iff hw]
  exact belongsTo_congr rfl (Graph.links_adopt hplaces.isClosed hplaces.has r')

namespace Graph

/-- Everything below a new composite has been adopted. -/
theorem registry_of_reaches_combined {g : Graph} {r : RegistryId} {id : FragmentId}
    {children : List FragmentId} (hg : g.IsClosed) (hchildren : ∀ child ∈ children, g.Has child)
    (h : (g.combined r children).2.Reaches (g.combined r children).1 id) :
    ((g.combined r children).2.node id).registry = some r := by
  have hplaces := places_addComposite hg hchildren
  have hbefore : (g.addComposite children).2.Reaches (g.addComposite children).1 id :=
    (reaches_iff_of_links fun id _ => links_adopt hplaces.isClosed hplaces.has r id).1 h
  rw [combined, node_adopt hplaces.isClosed hplaces.has, if_pos hbefore]

/-- A new composite does not lie below what was there before. -/
theorem reaches_combined {g : Graph} {id other : FragmentId} {children : List FragmentId}
    (hg : g.IsClosed) (hchildren : ∀ child ∈ children, g.Has child) (r : RegistryId)
    (hid : g.Has id) : (g.combined r children).2.Reaches id other ↔ g.Reaches id other := by
  have hplaces := places_addComposite hg hchildren
  rw [← hplaces.extends_graph.reaches_iff hg hid]
  exact reaches_iff_of_links fun id _ => links_adopt hplaces.isClosed hplaces.has r id

/-- A way to a node uses the new alternative or does not. -/
theorem reaches_of_pushAlternative {g : Graph} {id branch root other : FragmentId}
    (hid : g.Has id) (h : (g.pushAlternative id branch).Reaches root other) :
    g.Reaches root other ∨ g.Reaches root id ∧ g.Reaches branch other := by
  induction h with
  | refl => exact .inl Relation.ReflTransGen.refl
  | @tail other next _ hnext ih =>
      rcases (mem_links_pushAlternative hid).1 hnext with hold | ⟨rfl, rfl⟩
      · rcases ih with hroot | ⟨hroot, hbranch⟩
        · exact .inl (hroot.tail hold)
        · exact .inr ⟨hroot, hbranch.tail hold⟩
      · rcases ih with hroot | ⟨hroot, -⟩
        · exact .inr ⟨hroot, Relation.ReflTransGen.refl⟩
        · exact .inr ⟨hroot, Relation.ReflTransGen.refl⟩

end Graph

/-! ## Actions -/

/-- What another registry adopts does not belong to the registry, and what belongs to the registry
gets no alternatives from another one.  Nothing is asked of additions to a fragment that belonged to
the registry when the call was made, as long as the registry was in use then. -/
def Moment.KeepsAway (r : RegistryId) (p : Moment) : Action → Prop
  | .make r' kind => r' = r ∨ ∀ part ∈ kind.parts, p.workspace.Apart r part
  | .name r' _ _ id => r' = r ∨ p.workspace.Apart r id
  | .skip r' target => r' = r ∨ p.workspace.Apart r target
  | .branch called id children =>
    called.workspace.registryFor id = r ∨
      called.workspace.BelongsTo r id ∧ called.workspace.isLive r = true ∨
      ¬ p.workspace.BelongsTo r id ∧ ∀ child ∈ children, p.workspace.Apart r child
  | .restyle _ => True

namespace Moment

variable {p p' : Moment} {r : RegistryId} {a : Action}

/-- A new node that is adopted keeps a registry attached. -/
theorem isAttached_adopt_placed {w : Workspace} {kind : FragmentKind} {id : FragmentId} {g : Graph}
    {r' : RegistryId} (hplaces : w.graph.Places kind id g) (hw : w.IsSound) (h : w.IsAttached r)
    (hkeeps : r' = r ∨ ∀ part ∈ kind.parts, w.Apart r part) :
    Workspace.IsAttached { w with graph := g.adopt r' id } r := by
  have hextends : w.Extends { w with graph := g } := .of_graph hplaces.extends_graph
  refine (hextends.isAttached hw h).adopt hplaces.isClosed hplaces.has ?_
  exact hkeeps.imp_right fun hparts => .of_places hplaces hw hparts

/-- An action that keeps away from a registry keeps it attached, if it was attached when the call
was made. -/
theorem Acts.isAttached (h : p.Acts a p') (hp : p.workspace.IsSound) (ha : p.KeepsAway r a)
    (hcalled : a.CalledAt fun q => q.workspace.IsAttached r)
    (hattached : p.workspace.IsAttached r) : p'.workspace.IsAttached r := by
  cases h with
  | make hplaces => exact isAttached_adopt_placed hplaces hp hattached ha
  | name hr' hid hnames => exact hattached.named hp hr' hid hnames ha
  | @skip r' target names hr' htarget hnames =>
      have hextends := p.workspace.extends_skipTarget r' target
      have hsound := hextends.isSound hp (Workspace.isClosed_skipTarget hp.isClosed htarget r')
      have hhas := Workspace.has_skipTarget htarget r'
      rw [← hextends.names r'] at hnames
      refine (hextends.isAttached hp hattached).marked.named (hsound.marked _)
        (Nat.lt_of_lt_of_le hr' hextends.size_le) (Workspace.has_marked.2 hhas) hnames ?_
      exact ha.imp_right fun hapart => (hapart.skipTarget hp htarget r').marked
  | @branch called id children hid hchildren =>
      have hkeeps : called.workspace.registryFor id = r ∨ ¬ p.workspace.BelongsTo r id ∧
          ∀ child ∈ children, p.workspace.Apart r child := by
        rcases ha with hr | ⟨hbelongs, hlive⟩ | haway
        · exact .inl hr
        · exact .inl (Workspace.registryFor_of_isLive (hcalled id hbelongs) hlive)
        · exact .inr haway
      generalize called.workspace.registryFor id = r' at hkeeps
      have hcombined := isAttached_adopt_placed (Graph.places_addComposite hp.isClosed hchildren) hp
        hattached (hkeeps.imp_right And.right)
      rintro other ⟨root, hroot, hreaches⟩
      rw [Workspace.names_branched] at hroot
      rw [Workspace.graph_branched,
        Graph.observe_pushAlternative Node.registry (fun _ _ => rfl) fun _ _ => rfl]
      rcases Graph.reaches_of_pushAlternative (Graph.has_combined hid r' children) hreaches with
        hold | ⟨hid', hbranch⟩
      · exact hcombined other ⟨root, hroot, hold⟩
      · rcases hkeeps with rfl | ⟨hnot, -⟩
        · exact Graph.registry_of_reaches_combined hp.isClosed hchildren hbranch
        · exact absurd ⟨root, hroot, hid'⟩ (mt (p.workspace.belongsTo_combined hp hchildren).1 hnot)
  | @restyle id f hf =>
      have hlinks := hf.observe Node.links fun _ _ _ => rfl
      have hregistry := hf.observe Node.registry fun _ _ _ => rfl
      exact hattached.congr rfl (Graph.observe_modify hlinks _ id)
        (Graph.observe_modify hregistry _ id)

end Moment

/-! ## Programs -/

/-- An addition to a fragment that is attached to a registry in use finds all names of the
registry, those that were given later included. -/
theorem Builder.finds_names {r : RegistryId} {id : FragmentId} {s : SessionState τ}
    (hid : (s.workspace.graph.node id).registry = some r) (hlive : s.workspace.isLive r = true)
    {name : String} (hname : name ∈ (s.workspace.names r).allNames) :
    ∃ target b s', (s.workspace.names r).get? name = some target ∧
      (Session.builderFor id).after s = (.ok b, s') ∧
      (b.resolveReference name).after s' = (.ok (some target), s') := by
  obtain ⟨target, htarget⟩ := Registry.exists_get?_of_mem hname
  refine ⟨target, ⟨r, none⟩, s.withWorkspace (s.workspace.acquire r), htarget, ?_, ?_⟩
  · rw [Session.after_builderFor, hid, Option.filter_some, if_pos hlive]
  · have hnames : (s.workspace.acquire r).names r = s.workspace.names r :=
      (s.workspace.extends_acquire r).names r
    have hresolve := Registry.resolve?_of_get? htarget
    simp only [resolveReference, Session.after_bind, Session.after_workspace,
      SessionState.workspace_withWorkspace, hnames, hresolve]
    rfl

/-- If no other registry adopts what belongs to a registry, then at all moments everything that is
registered there, and everything below it, looks names up there.  As long as the registry is in use,
additions to any of these fragments find all names that it has at that moment. -/
theorem Obeys.attached {r : RegistryId} {m : Session (Chronicle σ) α} {memory : σ}
    (hm : Obeys (Moment.KeepsAway r) m (start memory)) {p : Moment}
    (hp : p ∈ history (m.after (start memory)).2) {id : FragmentId}
    (hid : p.workspace.BelongsTo r id) :
    (p.workspace.graph.node id).registry = some r ∧
      ∀ s : SessionState τ, s.workspace = p.workspace → p.workspace.isLive r = true →
        ∀ name ∈ (p.workspace.names r).allNames,
          ∃ target b s', (p.workspace.names r).get? name = some target ∧
            (Session.builderFor id).after s = (.ok b, s') ∧
            (b.resolveReference name).after s' = (.ok (some target), s') := by
  have hattached : p.workspace.IsAttached r := by
    refine (hm.forall_history (P := fun p => p.workspace.IsAttached r) ?_ ?_ ?_ p hp).2
    · intro q w hq hsound hextends _
      exact hextends.isAttached hsound hq
    · intro q a q' hq hsound ha hacts
      exact hacts.isAttached hsound ha.1 ha.2 hq
    · rintro id ⟨root, hroot, -⟩
      exact absurd hroot (Registry.not_registers_empty root)
  refine ⟨hattached id hid, fun s hs hlive name hname => ?_⟩
  have hregistry := hattached id hid
  rw [← hs] at hregistry hlive hname ⊢
  exact Builder.finds_names hregistry hlive hname

/-! ## Fragments without a registry -/

/-- Adds an alternative to a fragment without a registry, registers that fragment, and adds another
alternative to it. -/
def attachLater : Session (Chronicle Unit) Unit := do
  let b ← Builder.create none
  let _ ← Chronicle.register b .alias "a" (.native (.ofSource "a"))
  let fragment ← Session.addFragment [.native (.ofSource "u")]
  Session.addAlternative fragment [.native (.ofSource "v")]
  let _ ← Chronicle.register b .group "u" (.fragment fragment)
  Session.addAlternative fragment [.name "a+"]

/-- Nothing but a leaf belongs to a registry that has no other fragment. -/
theorem Workspace.eq_of_belongsTo_leaf {w : Workspace} {r : RegistryId} {id leaf : FragmentId}
    (hnames : ∀ root, (w.names r).Registers root → root = leaf)
    (hlinks : (w.graph.node leaf).links = []) (h : w.BelongsTo r id) : id = leaf := by
  obtain ⟨root, hroot, hreaches⟩ := h
  obtain rfl := hnames root hroot
  exact Graph.eq_of_reaches_leaf hlinks hreaches

theorem obeys_attachLater : Obeys (Moment.KeepsAway ⟨0⟩) attachLater (start ()) := by
  refine .bind_of_eq ⟨⟨0⟩, none⟩ (.create none) rfl ?_
  refine .bind_of_eq ⟨0⟩ (.register_plain (by decide) trivial (by simp) fun _ _ _ => .inl rfl) rfl ?_
  refine .bind_of_eq ⟨1⟩ (.addFragment (by simp)) rfl ?_
  refine .bind_of_eq () (.addAlternative_plain ?_ ?_ (by simp) ?_) ?_ ?_
  · decide +kernel
  · simp [Argument.IsPlain]
  · intro b s' hb products s'' hproducts
    obtain ⟨rfl, rfl⟩ := Session.eq_of_after (a := ⟨⟨1⟩, none⟩) hb (by decide +kernel)
    obtain ⟨rfl, hs''⟩ := Session.eq_of_after (a := [some ⟨2⟩]) hproducts (by decide +kernel)
    -- the temporary registry adopts a leaf while only another leaf belongs to the first registry
    have hnames : s''.workspace.names ⟨0⟩ = ⟨⟨[("a", ⟨0⟩)]⟩, ⟨[]⟩⟩ := by
      rw [hs'']
      decide +kernel
    have hregisters : ∀ root, (s''.workspace.names ⟨0⟩).Registers root → root = ⟨0⟩ := by
      rintro root ⟨c, name, hmem⟩
      rw [hnames] at hmem
      cases c
      · exact congrArg Prod.snd (List.mem_singleton.1 hmem)
      · cases hmem
    have hbelongs : ∀ id, s''.workspace.BelongsTo ⟨0⟩ id → id = ⟨0⟩ := fun id =>
      Workspace.eq_of_belongsTo_leaf hregisters (by rw [hs'']; decide +kernel)
    have hleaf : (s''.workspace.graph.node ⟨2⟩).links = [] := by
      rw [hs'']
      decide +kernel
    refine .inr (.inr ⟨fun hid => ?_, fun child hchild other hreaches hother => ?_⟩)
    · exact absurd (hbelongs _ hid) (by decide)
    · obtain rfl : child = ⟨2⟩ := by simpa using hchild
      obtain rfl := Graph.eq_of_reaches_leaf hleaf hreaches
      exact absurd (hbelongs _ hother) (by decide)
  · decide +kernel
  refine .bind_of_eq ⟨1⟩ (.register_plain ?_ trivial ?_ fun _ _ _ => .inl rfl) ?_ ?_
  · decide +kernel
  · intro id hid
    obtain rfl := Argument.fragment.inj hid
    decide +kernel
  · decide +kernel
  refine .addAlternative_plain ?_ ?_ (by simp) ?_
  · decide +kernel
  · simp [Argument.IsPlain]
  · intro b s' hb products s'' hproducts
    -- the fragment has been registered when the call is made
    refine .inr (.inl ⟨⟨⟨1⟩, Registry.containsFragment_iff.1 ?_, .refl⟩, ?_⟩)
    · decide +kernel
    · decide +kernel

/-- The fragment that was registered late and the leaf below it are attached. -/
theorem attached_attachLater :
    let s := (attachLater.after (start ())).2
    s.workspace.BelongsTo ⟨0⟩ ⟨1⟩ ∧ s.workspace.BelongsTo ⟨0⟩ ⟨2⟩ ∧
      (s.workspace.graph.node ⟨1⟩).registry = some ⟨0⟩ ∧
      (s.workspace.graph.node ⟨2⟩).registry = some ⟨0⟩ ∧
      ∃ target b s', (s.workspace.names ⟨0⟩).get? "u" = some target ∧
        (Session.builderFor ⟨2⟩).after s = (.ok b, s') ∧
        (b.resolveReference "u").after s' = (.ok (some target), s') := by
  intro s
  have hnow : now s ∈ history s := List.mem_append_right _ List.mem_cons_self
  have hregisters : (s.workspace.names ⟨0⟩).Registers ⟨1⟩ :=
    Registry.containsFragment_iff.1 (by decide +kernel)
  have hbranch : s.workspace.graph.Reaches ⟨1⟩ ⟨3⟩ := .single (by decide +kernel)
  have hleaf : s.workspace.BelongsTo ⟨0⟩ ⟨2⟩ := ⟨⟨1⟩, hregisters, hbranch.tail (by decide +kernel)⟩
  have hroot : s.workspace.BelongsTo ⟨0⟩ ⟨1⟩ := ⟨⟨1⟩, hregisters, .refl⟩
  obtain ⟨hregistry, -⟩ := Obeys.attached (τ := Unit) obeys_attachLater hnow hroot
  obtain ⟨hregistry', hfinds⟩ := Obeys.attached obeys_attachLater hnow hleaf
  refine ⟨hroot, hleaf, hregistry, hregistry', ?_⟩
  exact hfinds s rfl (by decide +kernel) "u" (by decide +kernel)

/-- Registers two fragments, makes an alternative of the first one for a fragment without a
registry, and then one of the second one for the first one. -/
def shareUnattached : Session (Chronicle Unit) Unit := do
  let b ← Builder.create none
  let fragment ← Chronicle.register b .alias "a" (.native (.ofSource "a"))
  let _ ← Chronicle.register b .alias "w" (.native (.ofSource "w"))
  let unattached ← Session.addFragment [.native (.ofSource "u")]
  Session.addAlternative unattached [.fragment fragment]
  Session.addAlternative fragment [.name "w"]

/-- The temporary registry of the fragment without a registry has adopted the first fragment, which
belongs to a registry in use.  The name `w` of that registry is then not found. -/
theorem not_attached_shareUnattached :
    Obeys (fun _ _ => True) shareUnattached (start ()) ∧
      let s := (shareUnattached.after (start ())).2
      s.workspace.BelongsTo ⟨0⟩ ⟨0⟩ ∧ s.workspace.isLive ⟨0⟩ = true ∧
        "w" ∈ (s.workspace.names ⟨0⟩).allNames ∧
        (s.workspace.graph.node ⟨0⟩).registry ≠ some ⟨0⟩ ∧
        s.workspace.graph.source ⟨0⟩ = .ok "((a)|())" := by
  constructor
  · refine .bind_of_eq ⟨⟨0⟩, none⟩ (.create none) rfl ?_
    refine .bind_of_eq ⟨0⟩ (.register_plain (by decide) trivial (by simp) fun _ _ _ => trivial) rfl ?_
    refine .bind_of_eq ⟨1⟩ (.register_plain (by decide) trivial (by simp) fun _ _ _ => trivial) ?_ ?_
    · decide +kernel
    refine .bind_of_eq ⟨2⟩ (.addFragment (by simp)) (by decide +kernel) ?_
    refine .bind_of_eq () (.addAlternative_plain ?_ ?_ ?_ fun _ _ _ _ _ _ => trivial) ?_ ?_
    · decide +kernel
    · simp [Argument.IsPlain]
    · intro id hid
      obtain rfl : id = ⟨0⟩ := by simpa using hid
      decide +kernel
    · decide +kernel
    refine .addAlternative_plain ?_ ?_ (by simp) fun _ _ _ _ _ _ => trivial
    · decide +kernel
    · simp [Argument.IsPlain]
  · have hregisters : ((shareUnattached.after (start ())).2.workspace.names ⟨0⟩).Registers ⟨0⟩ :=
      Registry.containsFragment_iff.1 (by decide +kernel)
    refine ⟨⟨⟨0⟩, hregisters, .refl⟩, ?_, ?_, ?_, ?_⟩
    · decide +kernel
    · decide +kernel
    · decide +kernel
    · decide +kernel

end RegexComposition

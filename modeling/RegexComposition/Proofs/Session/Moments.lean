import RegexComposition.Proofs.Session.Calls

/-!
# Moments of a session

What can be seen of a session at a moment is its workspace.  From one moment to the next there are
additions, which change nothing that was there, or one of a few actions.  The names that users give
are kept beside the workspace, because the workspace does not tell them from generated ones.

Main results:

- `Action` and `Moment.Acts`: what changes something, and how.
- `Chronicle`: what is remembered of a session.
- `Path`: how a session goes from state to state.
- `Path.forall_history`: an invariant of all steps holds at all moments.
-/

namespace RegexComposition

variable {σ α : Type}

/-! ## Actions -/

/-- A name that a user has given, in the order of the registrations. -/
structure GivenName where
  registry : RegistryId
  nameClass : NameClass
  name : String
  deriving DecidableEq

/-- What there is at some moment: the workspace, and the names that users have given so far. -/
structure Moment where
  workspace : Workspace
  given : List GivenName

/-- What a session does apart from additions. -/
inductive Action where
  /-- A new node of some kind is adopted. -/
  | make (r : RegistryId) (kind : FragmentKind)
  /-- A user gives a fragment a name. -/
  | name (r : RegistryId) (c : NameClass) (name : String) (id : FragmentId)
  /-- A fragment is skipped. -/
  | skip (r : RegistryId) (target : FragmentId)
  /-- A fragment gets an alternative made of some fragments.  The registry for it has been looked up
  at an earlier moment, at which the call was made. -/
  | branch (called : Moment) (id : FragmentId) (children : List FragmentId)
  /-- The modifiers or the flags of a fragment are changed. -/
  | restyle (id : FragmentId)

/-- The call was made at a moment with the property. -/
def Action.CalledAt (P : Moment → Prop) : Action → Prop
  | .branch called _ _ => P called
  | _ => True

/-- Only modifiers and flags are changed. -/
def Node.Restyles (f : Node → Node) : Prop :=
  ∀ n, ∃ modifiers flags, f n = { n with modifiers := modifiers, flags := flags }

/-- What is seen of a node without its modifiers and flags is the same afterwards. -/
theorem Node.Restyles.observe {β : Type} {f : Node → Node} (hf : Restyles f) (view : Node → β)
    (hview : ∀ n modifiers flags, view { n with modifiers := modifiers, flags := flags } = view n)
    (n : Node) : view (f n) = view n := by
  obtain ⟨modifiers, flags, heq⟩ := hf n
  rw [heq, hview]

/-- A new node has been added that leads to the parts of its kind, which were there before. -/
structure Graph.Places (g : Graph) (kind : FragmentKind) (id : FragmentId) (g' : Graph) : Prop where
  extends_graph : g.Extends g'
  isClosed : g'.IsClosed
  isNew : ¬ g.Has id
  has : g'.Has id
  links : (g'.node id).links = kind.parts
  has_of_mem : ∀ part ∈ kind.parts, g.Has part

/-- What an action does. -/
inductive Moment.Acts (p : Moment) : Action → Moment → Prop
  | make {r : RegistryId} {kind : FragmentKind} {id : FragmentId} {g : Graph} :
      p.workspace.graph.Places kind id g →
      Acts p (.make r kind) ⟨{ p.workspace with graph := g.adopt r id }, p.given⟩
  | name {r : RegistryId} {c : NameClass} {name : String} {id : FragmentId} {names : Registry} :
      p.workspace.HasRegistry r → p.workspace.graph.Has id →
      (p.workspace.names r).insert? c name id = .ok names →
      Acts p (.name r c name id) ⟨p.workspace.named r names id, p.given ++ [⟨r, c, name⟩]⟩
  | skip {r : RegistryId} {target : FragmentId} {names : Registry} :
      p.workspace.HasRegistry r → p.workspace.graph.Has target →
      (p.workspace.names r).insert? .group (p.workspace.names r).skipName
        (p.workspace.skipTarget r target).1 = .ok names →
      Acts p (.skip r target) ⟨(p.workspace.skipTarget r target).2.skipped r names
        (p.workspace.skipTarget r target).1, p.given⟩
  | branch {called : Moment} {id : FragmentId} {children : List FragmentId} :
      p.workspace.graph.Has id → (∀ child ∈ children, p.workspace.graph.Has child) →
      Acts p (.branch called id children)
        ⟨p.workspace.branched (called.workspace.registryFor id) id children, p.given⟩
  | restyle {id : FragmentId} {f : Node → Node} :
      Node.Restyles f → Acts p (.restyle id)
        ⟨{ p.workspace with graph := p.workspace.graph.modify id f }, p.given⟩

namespace Graph

variable {g : Graph} {id : FragmentId} {children : List FragmentId}

theorem places_addComposite (hg : g.IsClosed) (hchildren : ∀ child ∈ children, g.Has child) :
    g.Places (.composite children) (g.addComposite children).1 (g.addComposite children).2 where
  extends_graph := extends_addComposite g children
  isClosed := isClosed_addComposite hg hchildren
  isNew := not_has_addComposite g children
  has := has_addComposite_self g children
  links := (isPlain_addComposite g children).links_eq
  has_of_mem := hchildren

theorem places_addWrapper (hg : g.IsClosed) (hid : g.Has id) (modifiers : Modifiers) :
    g.Places (.composite [id]) (g.addWrapper id modifiers).1 (g.addWrapper id modifiers).2 where
  extends_graph := extends_addWrapper g id modifiers
  isClosed := isClosed_addWrapper hg hid modifiers
  isNew := not_has_addComposite g [id]
  has := has_addWrapper_self g id modifiers
  links := by
    have hcomposite : g.Places (.composite [id]) _ _ :=
      places_addComposite hg (by simpa using hid)
    have hsame := @observe_modify ({ · with modifiers := modifiers }) _ Node.links (fun _ => rfl)
      (g.addComposite [id]).2 (g.addComposite [id]).1 (g.addComposite [id]).1
    exact hsame.trans hcomposite.links
  has_of_mem := by simpa [FragmentKind.parts] using hid

theorem places_addNative (hg : g.IsClosed) (pattern : NativePattern) :
    g.Places (.native pattern) (g.addNative pattern).1 (g.addNative pattern).2 where
  extends_graph := extends_add g _
  isClosed := isClosed_add hg (by simp [FragmentKind.parts])
  isNew := Nat.lt_irrefl _
  has := has_add_self g _
  links := by
    have hnode : (g.addNative pattern).2.node (g.addNative pattern).1 =
      { kind := .native pattern } := node_add_self g _
    rw [hnode]
    rfl
  has_of_mem := by simp [FragmentKind.parts]

theorem isClosed_combined (hg : g.IsClosed) (hchildren : ∀ child ∈ children, g.Has child)
    (r : RegistryId) : (g.combined r children).2.IsClosed :=
  isClosed_adopt (isClosed_addComposite hg hchildren) (has_addComposite_self g children) r

theorem has_combined (h : g.Has id) (r : RegistryId) (children : List FragmentId) :
    (g.combined r children).2.Has id :=
  has_adopt.2 ((extends_addComposite g children).has h)

theorem has_combined_self (g : Graph) (r : RegistryId) (children : List FragmentId) :
    (g.combined r children).2.Has (g.combined r children).1 :=
  has_adopt.2 (has_addComposite_self g children)

/-- A new alternative changes nothing but parents and alternatives. -/
theorem observe_pushAlternative {β : Type} (view : Node → β)
    (hparent : ∀ n p, view { n with parent := p } = view n)
    (halternatives : ∀ n ids, view { n with alternatives := ids } = view n)
    (g : Graph) (id branch other : FragmentId) :
    view ((g.pushAlternative id branch).node other) = view (g.node other) := by
  have hset : view ((g.setParent id branch).node other) = view (g.node other) :=
    observe_modify (fun n => hparent n (some id)) g branch other
  rw [← hset]
  exact observe_modify (fun n => halternatives n (n.alternatives ++ [branch])) _ id other

/-- The alternative is the only new link. -/
theorem mem_links_pushAlternative {branch other next : FragmentId} (hid : g.Has id) :
    next ∈ ((g.pushAlternative id branch).node other).links ↔
      next ∈ (g.node other).links ∨ other = id ∧ next = branch := by
  have hparent : ((g.setParent id branch).node other).links = (g.node other).links :=
    @observe_modify ({ · with parent := some id }) _ Node.links (fun _ => rfl) g branch other
  by_cases hother : other = id
  · subst hother
    have hnode : (g.pushAlternative other branch).node other =
        { (g.setParent other branch).node other with
          alternatives := ((g.setParent other branch).node other).alternatives ++ [branch] } :=
      node_modify_self (has_modify.2 hid) _
    rw [hnode, ← hparent]
    simp only [Node.links, List.mem_append, List.mem_singleton, true_and]
    exact or_right_comm
  · have hnode : (g.pushAlternative id branch).node other = (g.setParent id branch).node other :=
      node_modify_of_ne hother
    rw [hnode, hparent]
    simp [hother]

@[simp]
theorem has_pushAlternative {branch other : FragmentId} :
    (g.pushAlternative id branch).Has other ↔ g.Has other := by
  simp [Has, pushAlternative, setParent]

theorem isClosed_pushAlternative {branch : FragmentId} (hg : g.IsClosed) (hid : g.Has id)
    (hbranch : g.Has branch) : (g.pushAlternative id branch).IsClosed := by
  intro other next hnext
  rw [has_pushAlternative]
  rcases (mem_links_pushAlternative hid).1 hnext with hold | ⟨-, rfl⟩
  · exact hg other next hold
  · exact hbranch

end Graph

namespace Moment

variable {p p' : Moment} {a : Action}

/-- No action refers to a fragment that does not exist. -/
theorem Acts.isSound (h : p.Acts a p') (hp : p.workspace.IsSound) : p'.workspace.IsSound := by
  cases h with
  | @make r kind id g hplaces =>
      refine ⟨Graph.isClosed_adopt hplaces.isClosed hplaces.has r, fun r' id' hid' => ?_⟩
      exact Graph.has_adopt.2 (hplaces.extends_graph.has (hp.has r' id' hid'))
  | name hr hid hnames => exact hp.named hr hid hnames
  | @skip r target names hr htarget hnames =>
      have hextends := p.workspace.extends_skipTarget r target
      have hsound := hextends.isSound hp (Workspace.isClosed_skipTarget hp.isClosed htarget r)
      have hhas := Workspace.has_skipTarget htarget r
      rw [← hextends.names r] at hnames
      exact (hsound.marked _).named (Nat.lt_of_lt_of_le hr hextends.size_le)
        (Workspace.has_marked.2 hhas) hnames
  | @branch called id children hid hchildren =>
      generalize called.workspace.registryFor id = r
      have hclosed := Graph.isClosed_combined hp.isClosed hchildren r
      refine ⟨Graph.isClosed_pushAlternative hclosed (Graph.has_combined hid r children)
        (Graph.has_combined_self _ r children), fun r' id' hid' => ?_⟩
      rw [Workspace.names_branched] at hid'
      exact Graph.has_pushAlternative.2 (Graph.has_combined (hp.has r' id' hid') r children)
  | restyle hf => exact hp.modify (hf.observe Node.links fun _ _ _ => rfl) _

/-- An action changes no registry but by inserting a name. -/
theorem Acts.names_cases (h : p.Acts a p') (r : RegistryId) :
    p'.workspace.names r = p.workspace.names r ∨
      ∃ c name id, (p.workspace.names r).Inserts c name id (p'.workspace.names r) := by
  cases h with
  | make => exact .inl rfl
  | @name r' c name id names hr' _ hnames =>
      rw [Workspace.names_named hr']
      split
      · next heq =>
          subst heq
          exact .inr ⟨c, name, id, Registry.inserts_of_insert? hnames⟩
      · exact .inl rfl
  | @skip r' target names hr' _ hnames =>
      have hextends := p.workspace.extends_skipTarget r' target
      rw [Workspace.names_skipped (Nat.lt_of_lt_of_le hr' hextends.size_le)]
      split
      · next heq =>
          subst heq
          exact .inr ⟨_, _, _, Registry.inserts_of_insert? hnames⟩
      · exact .inl (hextends.names r)
  | @branch called id children =>
      exact .inl (p.workspace.names_branched (called.workspace.registryFor id) r id children)
  | restyle => exact .inl rfl

/-- Registries stay valid. -/
theorem Acts.isValid (h : p.Acts a p') (hp : p.workspace.IsValid) : p'.workspace.IsValid := by
  intro r
  rcases h.names_cases r with hsame | ⟨c, name, id, hinserts⟩
  · rw [hsame]
    exact hp r
  · exact hinserts.isValid (hp r)

/-- Fragments stay. -/
theorem Acts.has {id : FragmentId} (h : p.Acts a p') (hid : p.workspace.graph.Has id) :
    p'.workspace.graph.Has id := by
  cases h with
  | make hplaces => exact Graph.has_adopt.2 (hplaces.extends_graph.has hid)
  | name => exact Graph.has_adopt.2 hid
  | @skip r target names =>
      have hextends := p.workspace.extends_skipTarget r target
      simpa using hextends.graph.has hid
  | @branch called id children =>
      simpa using Graph.has_combined hid (called.workspace.registryFor id) children
  | restyle => exact Graph.has_modify.2 hid

/-- Registries stay. -/
theorem Acts.hasRegistry {r : RegistryId} (h : p.Acts a p') (hr : p.workspace.HasRegistry r) :
    p'.workspace.HasRegistry r := by
  cases h with
  | make => exact hr
  | name => exact Workspace.hasRegistry_named.2 hr
  | @skip r' target names =>
      have hextends := p.workspace.extends_skipTarget r' target
      have hlater : (p.workspace.skipTarget r' target).2.HasRegistry r :=
        Nat.lt_of_lt_of_le hr hextends.size_le
      simpa using hlater
  | @branch called id =>
      have hextends := p.workspace.extends_release (called.workspace.registryFor id)
      exact Nat.lt_of_lt_of_le hr hextends.size_le
  | restyle => exact hr

end Moment

/-! ## Chronicles -/

/-- What user functions remember, the names that users have given, and the moments that have been
noted, all in order. -/
structure Chronicle (σ : Type) where
  memory : σ
  given : List GivenName
  seen : List Moment

namespace Chronicle

/-- The present moment. -/
def now (s : SessionState (Chronicle σ)) : Moment := ⟨s.workspace, s.memory.given⟩

/-- The state at another moment. -/
def goTo (s : SessionState (Chronicle σ)) (p : Moment) : SessionState (Chronicle σ) :=
  ⟨p.workspace, { s.memory with given := p.given }⟩

/-- Notes the present moment. -/
def note : Session (Chronicle σ) Unit :=
  modify fun s => { s with memory := { s.memory with seen := s.memory.seen ++ [now s] } }

/-- Reads and changes what user functions remember. -/
def remember (f : σ → α × σ) : Session (Chronicle σ) α :=
  modifyGet fun s => ((f s.memory.memory).1,
    { s with memory := { s.memory with memory := (f s.memory.memory).2 } })

/-- Registers a value under a name and writes down that the name has been given. -/
def register (b : Builder) (c : NameClass) (name : String) (v : Argument (Chronicle σ)) :
    Session (Chronicle σ) FragmentId := do
  let id ← b.register c name v
  modify fun s =>
    { s with memory := { s.memory with given := s.memory.given ++ [⟨b.registry, c, name⟩] } }
  return id

/-- The state in which nothing has been made and nothing noted. -/
def start (memory : σ) : SessionState (Chronicle σ) := ⟨Workspace.empty, memory, [], []⟩

/-- All noted moments, and the present one after them. -/
def history (s : SessionState (Chronicle σ)) : List Moment := s.memory.seen ++ [now s]

end Chronicle

/-! ## Paths -/

open Chronicle

/-- How a session goes on: with additions, with an action that is allowed at the moment, or with
notes and memories. -/
inductive Move (may : Moment → Action → Prop) (s : SessionState (Chronicle σ)) :
    SessionState (Chronicle σ) → Prop
  | extend {w : Workspace} :
      s.workspace.Extends w → w.graph.IsClosed → Move may s (s.withWorkspace w)
  | act {a : Action} {p : Moment} : may (now s) a → (now s).Acts a p → Move may s (goTo s p)
  | note : Move may s { s with memory := { s.memory with seen := s.memory.seen ++ [now s] } }
  | remember (memory : σ) : Move may s { s with memory := { s.memory with memory := memory } }

/-- The ways from a state to later ones. -/
def Path (may : Moment → Action → Prop) :
    SessionState (Chronicle σ) → SessionState (Chronicle σ) → Prop :=
  Relation.ReflTransGen (Move may)

variable {may : Moment → Action → Prop} {s s' s'' : SessionState (Chronicle σ)}

/-- A rule may allow more. -/
theorem Move.mono {may' : Moment → Action → Prop} (h : Move may s s')
    (hmay : ∀ p a, may p a → may' p a) : Move may' s s' := by
  cases h with
  | extend hextends hclosed => exact .extend hextends hclosed
  | act hallowed hacts => exact .act (hmay _ _ hallowed) hacts
  | note => exact .note
  | remember memory => exact .remember memory

theorem Move.isSound (h : Move may s s') (hs : s.workspace.IsSound) : s'.workspace.IsSound := by
  cases h with
  | extend hextends hclosed => exact hextends.isSound hs hclosed
  | act _ hacts => exact hacts.isSound hs
  | note => exact hs
  | remember memory => exact hs

/-- What every addition and every allowed action keeps is kept by every move. -/
theorem Move.preserves {P : Moment → Prop} (hs : s.workspace.IsSound)
    (hextend : ∀ p w, P p → p.workspace.IsSound → p.workspace.Extends w → w.graph.IsClosed →
      P ⟨w, p.given⟩)
    (hact : ∀ p a p', P p → p.workspace.IsSound → may p a → p.Acts a p' → P p')
    (h : Move may s s') (hp : P (now s)) : P (now s') := by
  cases h with
  | extend hextends hclosed => exact hextend _ _ hp hs hextends hclosed
  | act hmay hacts => exact hact _ _ _ hp hs hmay hacts
  | note => exact hp
  | remember memory => exact hp

/-- A move goes on from the present moment or notes it. -/
theorem Move.mem_history {p : Moment} (h : Move may s s') (hp : p ∈ history s') :
    p ∈ history s ∨ p = now s' := by
  cases h with
  | note =>
      rcases List.mem_append.1 hp with hseen | hnow
      · exact .inl hseen
      · exact .inr (List.mem_singleton.1 hnow)
  | extend | act | remember =>
      rcases List.mem_append.1 hp with hseen | hnow
      · exact .inl (List.mem_append_left _ hseen)
      · exact .inr (List.mem_singleton.1 hnow)

namespace Path

theorem refl (s : SessionState (Chronicle σ)) : Path may s s := Relation.ReflTransGen.refl

theorem trans (h : Path may s s') (h' : Path may s' s'') : Path may s s'' :=
  Relation.ReflTransGen.trans h h'

theorem of_move (h : Move may s s') : Path may s s' := Relation.ReflTransGen.single h

theorem mono {may' : Moment → Action → Prop} (h : Path may s s')
    (hmay : ∀ p a, may p a → may' p a) : Path may' s s' :=
  Relation.ReflTransGen.mono (fun _ _ hmove => hmove.mono hmay) _ _ h

theorem isSound (h : Path may s s') (hs : s.workspace.IsSound) : s'.workspace.IsSound := by
  induction h with
  | refl => exact hs
  | tail _ hmove ih => exact hmove.isSound ih

/-- What every addition and every allowed action keeps is kept on the whole way. -/
theorem preserves {P : Moment → Prop} (h : Path may s s') (hs : s.workspace.IsSound)
    (hextend : ∀ p w, P p → p.workspace.IsSound → p.workspace.Extends w → w.graph.IsClosed →
      P ⟨w, p.given⟩)
    (hact : ∀ p a p', P p → p.workspace.IsSound → may p a → p.Acts a p' → P p')
    (hp : P (now s)) : P (now s') := by
  induction h with
  | refl => exact hp
  | tail hpath hmove ih => exact hmove.preserves (isSound hpath hs) hextend hact ih

/-- What every addition and every allowed action keeps holds at all moments of the way. -/
theorem forall_history {P : Moment → Prop} (h : Path may s s') (hs : s.workspace.IsSound)
    (hextend : ∀ p w, P p → p.workspace.IsSound → p.workspace.Extends w → w.graph.IsClosed →
      P ⟨w, p.given⟩)
    (hact : ∀ p a p', P p → p.workspace.IsSound → may p a → p.Acts a p' → P p')
    (hp : ∀ p ∈ history s, P p) : ∀ p ∈ history s', P p := by
  have hnow : P (now s) := hp _ (List.mem_append_right _ (List.mem_singleton_self _))
  induction h with
  | refl => exact hp
  | tail hpath hmove ih =>
      intro p hmem
      rcases hmove.mem_history hmem with hbefore | rfl
      · exact ih p hbefore
      · exact preserves (hpath.tail hmove) hs hextend hact hnow

/-- Everything that has been made stays. -/
theorem has {id : FragmentId} (h : Path may s s') (hid : s.workspace.graph.Has id) :
    s'.workspace.graph.Has id := by
  induction h with
  | refl => exact hid
  | tail _ hmove ih =>
      cases hmove with
      | extend hextends => exact hextends.graph.has ih
      | act _ hacts => exact hacts.has ih
      | note => exact ih
      | remember => exact ih

theorem hasRegistry {r : RegistryId} (h : Path may s s') (hr : s.workspace.HasRegistry r) :
    s'.workspace.HasRegistry r := by
  induction h with
  | refl => exact hr
  | tail _ hmove ih =>
      cases hmove with
      | extend hextends => exact Nat.lt_of_lt_of_le ih hextends.size_le
      | act _ hacts => exact hacts.hasRegistry ih
      | note => exact ih
      | remember => exact ih

end Path

end RegexComposition

import RegexComposition.Proofs.Session.Invariant

/-!
# The history of a session

A client is a program that uses a session only through what builders and fragments offer.  The
functions that it hands over are clients themselves, so calls may be nested to any depth.
Wherever a client is in control it can note the workspace as it is at that moment.

Main results:

- `Client`: the programs.
- `Client.upholds`: what every call keeps is kept by all of them.
- `Client.registries_grow`: all registries stay valid and only ever grow at their ends.
-/

namespace RegexComposition

/-! ## Journals -/

/-- What user functions remember, and the workspaces that have been noted, in order. -/
structure Journal (σ : Type) where
  memory : σ
  seen : List Workspace

namespace Journal

variable {σ α : Type}

/-- Notes the workspace as it is now. -/
def note : Session (Journal σ) Unit :=
  modify fun s => { s with memory := { s.memory with seen := s.memory.seen ++ [s.workspace] } }

/-- Reads and changes what user functions remember. -/
def remember (f : σ → α × σ) : Session (Journal σ) α :=
  modifyGet fun s => ((f s.memory.memory).1, { s with memory := { s.memory with
    memory := (f s.memory.memory).2 } })

/-- The state in which nothing has been made and nothing noted. -/
def start (memory : σ) : SessionState (Journal σ) := ⟨Workspace.empty, memory, []⟩

/-- All noted workspaces, and the present one after them. -/
def history (s : SessionState (Journal σ)) : List Workspace := s.memory.seen ++ [s.workspace]

end Journal

/-! ## Clients -/

/-- Programs that only use what builders and fragments offer, with functions that are such
programs.  They may note the workspace, remember things, read and change the fragment graph, fail
and catch failures. -/
inductive Client {σ : Type} : {α : Type} → Session (Journal σ) α → Prop
  | pure {α : Type} (a : α) : Client (Pure.pure a)
  | bind {α β : Type} {m : Session (Journal σ) α} {f : α → Session (Journal σ) β} :
      Client m → (∀ a, Client (f a)) → Client (m >>= f)
  | throw {α : Type} (e : CompositionError) : Client (MonadExcept.throw e : Session (Journal σ) α)
  | attempt {α : Type} {m : Session (Journal σ) α} : Client m → Client (ExceptT.lift m.run)
  | note : Client Journal.note
  | remember {α : Type} (f : σ → α × σ) : Client (Journal.remember f)
  | workspace : Client Session.workspace
  | onGraph {α : Type} (f : Graph → α × Graph) : Client (Session.onGraph f)
  | create (flags : Option Flags) : Client (Builder.create flags)
  | copy (b : Builder) : Client b.copy
  | discard (b : Builder) : Client b.discard
  | register (b : Builder) (c : NameClass) (name : String) (v : Argument (Journal σ)) :
      (∀ make, v.function? = some make → ∀ b, Client (make b)) → Client (b.register c name v)
  | skip (b : Builder) (v : Argument (Journal σ)) :
      (∀ make, v.function? = some make → ∀ b, Client (make b)) → Client (b.skip v)
  | combine (b : Builder) (args : List (Argument (Journal σ))) :
      (∀ v ∈ args, ∀ make, v.function? = some make → ∀ b, Client (make b)) →
        Client (b.combine args)
  | addLiteral (b : Builder) (value : Literal) : Client (b.addLiteral value)
  | lookaround (b : Builder) (direction : Direction) (negated : Bool)
      (args : List (Argument (Journal σ))) :
      (∀ v ∈ args, ∀ make, v.function? = some make → ∀ b, Client (make b)) →
        Client (b.lookaround direction negated args)
  | captureGroups (b : Builder) (args : List (Argument (Journal σ))) :
      (∀ v ∈ args, ∀ make, v.function? = some make → ∀ b, Client (make b)) →
        Client (b.captureGroups args)
  | toRegex (b : Builder) (v : Argument (Journal σ)) (flags : Option Flags) :
      (∀ make, v.function? = some make → ∀ b, Client (make b)) → Client (b.toRegex v flags)
  | compile (b : Builder) (args : List (Argument (Journal σ))) :
      (∀ v ∈ args, ∀ make, v.function? = some make → ∀ b, Client (make b)) →
        Client (b.compile args)
  | source (b : Builder) (args : List (Argument (Journal σ))) :
      (∀ v ∈ args, ∀ make, v.function? = some make → ∀ b, Client (make b)) →
        Client (b.source args)
  | addAlternative (id : FragmentId) (args : List (Argument (Journal σ))) :
      (∀ v ∈ args, ∀ make, v.function? = some make → ∀ b, Client (make b)) →
        Client (Session.addAlternative id args)

namespace Client

open Session

variable {σ α : Type} {m : Session (Journal σ) α} {P : SessionState (Journal σ) → Prop}

/-- A client keeps what is kept by every change of the workspace, by noting it and by what user
functions remember. -/
theorem upholds (hm : Client m) (hP : Stable P) (hnote : Upholds P Journal.note)
    (hremember : ∀ {β : Type} (f : σ → β × σ), Upholds P (Journal.remember f)) : Upholds P m := by
  induction hm with
  | pure a => exact upholds_pure a
  | bind _ _ hm hf => exact hm.bind hf
  | throw e => exact upholds_throw e
  | attempt _ hm => exact hm.lift_run
  | note => exact hnote
  | remember f => exact hremember f
  | workspace => exact upholds_workspace
  | onGraph f => exact hP.onGraph f
  | create flags => exact Builder.upholds_create hP flags
  | copy b => exact Builder.upholds_copy hP b
  | discard b => exact Builder.upholds_discard hP b
  | register b c name v _ hv => exact Builder.upholds_register hP b c name hv
  | skip b v _ hv => exact Builder.upholds_skip hP b hv
  | combine b args _ hargs => exact Builder.upholds_combine hP b hargs
  | addLiteral b value => exact Builder.upholds_addLiteral hP b value
  | lookaround b direction negated args _ hargs =>
      exact Builder.upholds_lookaround hP b hargs direction negated
  | captureGroups b args _ hargs => exact Builder.upholds_captureGroups hP b hargs
  | toRegex b v flags _ hv => exact Builder.upholds_toRegex hP b flags hv
  | compile b args _ hargs => exact Builder.upholds_compile hP b hargs
  | source b args _ hargs => exact Builder.upholds_source hP b hargs
  | addAlternative id args _ hargs => exact Builder.upholds_addAlternative hP id hargs

end Client

/-! ## The registries over time -/

/-- All workspaces are valid, and each one is followed by ones to which it has grown. -/
structure IsGrowth (ws : List Workspace) : Prop where
  isValid : ∀ w ∈ ws, w.IsValid
  grows : ws.Pairwise Workspace.Grows

namespace IsGrowth

variable {ws : List Workspace} {w w' : Workspace}

/-- A change of the last workspace continues the growth. -/
theorem step (h : IsGrowth (ws ++ [w])) (hstep : w.Step w') : IsGrowth (ws ++ [w']) := by
  have hlast : w.IsValid := h.isValid w (by simp)
  obtain ⟨hws, -, hbefore⟩ := List.pairwise_append.1 h.grows
  constructor
  · intro v hv
    rcases List.mem_append.1 hv with hv | hv
    · exact h.isValid v (List.mem_append_left _ hv)
    · rw [List.mem_singleton.1 hv]
      exact hstep.isValid hlast
  · refine List.pairwise_append.2 ⟨hws, List.pairwise_singleton _ _, fun v hv v' hv' => ?_⟩
    rw [List.mem_singleton.1 hv']
    exact (hbefore v hv w (List.mem_singleton_self w)).trans hstep.grows

/-- The last workspace may be repeated. -/
theorem repeat_last (h : IsGrowth (ws ++ [w])) : IsGrowth (ws ++ [w] ++ [w]) := by
  obtain ⟨-, -, hbefore⟩ := List.pairwise_append.1 h.grows
  constructor
  · intro v hv
    exact h.isValid v (by simpa using hv)
  · refine List.pairwise_append.2 ⟨h.grows, List.pairwise_singleton _ _, fun v hv v' hv' => ?_⟩
    rw [List.mem_singleton.1 hv']
    rcases List.mem_append.1 hv with hv | hv
    · exact hbefore v hv w (List.mem_singleton_self w)
    · rw [List.mem_singleton.1 hv]
      exact Workspace.Grows.refl w

end IsGrowth

open Journal in
/-- Whatever a client does, at every moment that it notes and at the end no registered name is
empty and no name occurs twice in a registry.  From any such moment to any later one the entries
of both classes stay where they are, and new ones only follow after them. -/
theorem Client.registries_grow {σ α : Type} {m : Session (Journal σ) α} (hm : Client m)
    (memory : σ) : IsGrowth (history (m.after (start memory)).2) := by
  refine hm.upholds (P := fun s => IsGrowth (history s)) ?_ ?_ ?_ _ ?_
  · intro s w hs hstep
    exact hs.step hstep
  · intro s hs
    exact hs.repeat_last
  · intro β f s hs
    exact hs
  · constructor
    · intro w hw
      rw [List.mem_singleton.1 hw]
      exact Workspace.isValid_empty
    · exact List.pairwise_singleton _ _

/-- A client whose function takes the name that is about to be registered, so that the
registration fails, and that uses a copy of the builder afterwards. -/
def takenMeanwhile : Session (Journal Unit) Unit := do
  let b ← Builder.create none
  Journal.note
  let digit : NativePattern := NativePattern.ofSource "\\d"
  let _ ← ExceptT.lift (b.register .alias "digit" (.function fun b => do
    let id ← b.register .group "digit" (.native digit)
    Journal.note
    return id)).run
  let copy ← b.copy
  let _ ← copy.register .alias "digits" (.name "digit+")
  return ()

open Journal in
theorem registries_grow_takenMeanwhile :
    IsGrowth (history (takenMeanwhile.after (start ())).2) ∧
      (history (takenMeanwhile.after (start ())).2).map (fun w => (w.names ⟨0⟩).allNames) =
        [[], ["digit"], ["digits", "digit"]] := by
  refine ⟨Client.registries_grow ?_ (), by decide +kernel⟩
  refine .bind (.create none) fun b => .bind .note fun _ => .bind (.attempt ?_) fun _ =>
    .bind (.copy b) fun copy => .bind (.register copy _ _ _ ?_) fun _ => .pure ()
  · refine .register b _ _ _ fun make hmake b' => ?_
    cases hmake
    exact .bind (.register b' _ _ _ fun make hmake => nomatch hmake) fun id =>
      .bind .note fun _ => .pure id
  · exact fun make hmake => nomatch hmake

end RegexComposition

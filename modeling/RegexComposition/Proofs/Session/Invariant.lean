import RegexComposition.Builder
import RegexComposition.Proofs.Session.Run

/-!
# Invariants of sessions

Whatever is kept by every change of a workspace is kept by everything that a builder offers, as
long as the functions among the arguments keep it.  It does not matter whether a call fails.

Main results:

- `Session.Upholds`: a computation keeps a property of the state, also when it fails.
- `Session.Stable`: every change of the workspace keeps the property.
- `Builder.upholds_register`, `Builder.upholds_combine` and the like: each call keeps it then.
-/

namespace RegexComposition

variable {σ α β : Type} {P : SessionState σ → Prop}

/-! ## Computations -/

namespace Session

variable {m : Session σ α} {f : α → Session σ β}

/-- A computation keeps a property of the state, also when it fails. -/
def Upholds (P : SessionState σ → Prop) (m : Session σ α) : Prop := ∀ s, P s → P (m.after s).2

/-- Every change of the workspace keeps the property. -/
def Stable (P : SessionState σ → Prop) : Prop :=
  ∀ s w, P s → s.workspace.Step w → P { s with workspace := w }

theorem upholds_pure (a : α) : Upholds P (pure a) := fun _ hs => hs

theorem upholds_throw (e : CompositionError) : Upholds P (throw e : Session σ α) := fun _ hs => hs

theorem upholds_workspace : Upholds P workspace := fun _ hs => hs

theorem upholds_graph : Upholds P graph := fun _ hs => hs

theorem upholds_ofExcept (r : Except CompositionError α) : Upholds P (ofExcept r) := fun _ hs => hs

/-- If the first computation fails, the second one does not run. -/
theorem Upholds.bind (hm : m.Upholds P) (hf : ∀ a, (f a).Upholds P) : (m >>= f).Upholds P := by
  intro s hs
  rw [after_bind]
  have hs' := hm s hs
  generalize m.after s = outcome at hs' ⊢
  obtain ⟨result, s'⟩ := outcome
  cases result with
  | ok a => exact hf a s' hs'
  | error e => exact hs'

theorem Upholds.map (hm : m.Upholds P) (f : α → β) : (f <$> m).Upholds P := by
  rw [map_eq_pure_bind]
  exact hm.bind fun a => upholds_pure (f a)

theorem Upholds.lift_run (hm : m.Upholds P) : Upholds P (ExceptT.lift m.run) := hm

theorem Upholds.mapM {f : α → Session σ β} {as : List α} (h : ∀ a ∈ as, (f a).Upholds P) :
    (as.mapM f).Upholds P := by
  induction as with
  | nil => exact upholds_pure []
  | cons a as ih =>
      rw [List.mapM_cons]
      exact (h a List.mem_cons_self).bind fun b =>
        (ih fun a' ha' => h a' (List.mem_cons_of_mem a ha')).bind fun bs => upholds_pure _

theorem Stable.modifyWorkspace (hP : Stable P) {f : Workspace → Workspace}
    (hf : ∀ w, Workspace.Step w (f w)) : (Session.modifyWorkspace f).Upholds P :=
  fun s hs => hP s _ hs (hf _)

theorem Stable.onGraph (hP : Stable P) (f : Graph → α × Graph) : (Session.onGraph f).Upholds P :=
  fun s hs => hP s _ hs (.graph _)

theorem Stable.modifyGraph (hP : Stable P) (f : Graph → Graph) :
    (Session.modifyGraph f).Upholds P :=
  hP.modifyWorkspace fun w => .graph (f w.graph)

theorem Stable.addSource (hP : Stable P) (source : String) : (addSource source).Upholds P :=
  hP.onGraph _

theorem Stable.ofResolution (hP : Stable P) (r : Resolution) : (ofResolution r).Upholds P := by
  unfold Session.ofResolution
  split
  · exact upholds_pure _
  · exact hP.onGraph _

end Session

/-! ## Values and combinations -/

namespace Builder

open Session

variable {v : Argument σ} {args : List (Argument σ)}

theorem upholds_create (hP : Stable P) (flags : Option Flags) : (create flags).Upholds P :=
  Upholds.bind (fun s hs => hP s _ hs .addRegistry) fun _ => upholds_pure _

theorem upholds_copy (hP : Stable P) (b : Builder) : b.copy.Upholds P :=
  (hP.modifyWorkspace fun _ => .acquire b.registry).bind fun _ => upholds_pure _

theorem upholds_discard (hP : Stable P) (b : Builder) : b.discard.Upholds P :=
  hP.modifyWorkspace fun _ => .release b.registry

theorem upholds_names (b : Builder) : b.names.Upholds P :=
  upholds_workspace.bind fun _ => upholds_pure _

theorem upholds_resolveReference (hP : Stable P) (b : Builder) (name : String) :
    (b.resolveReference name).Upholds P := by
  refine upholds_workspace.bind fun w => ?_
  split
  · exact (hP.ofResolution _).map some
  · split
    · exact (hP.addSource _).map some
    · split
      · exact upholds_throw _
      · exact upholds_pure none

/-- A single value keeps the property if it is no function or one that keeps it. -/
theorem upholds_resolveValue (hP : Stable P) (b : Builder)
    (hv : ∀ make, v.function? = some make → ∀ b, (make b).Upholds P) : (b.resolveValue v).Upholds P := by
  cases v with
  | native pattern => exact hP.onGraph _
  | fragment id => exact upholds_pure id
  | name text =>
      refine (upholds_resolveReference hP b text).bind fun id? => ?_
      cases id? with
      | some id => exact upholds_pure id
      | none => exact upholds_throw _
  | function | textFunction => exact hv _ rfl b
  | literal value => exact hP.addSource _
  | upTo direction pattern => exact upholds_throw _

theorem upholds_classify (hP : Stable P) (b : Builder)
    (hv : ∀ make, v.function? = some make → ∀ b, (make b).Upholds P) : (b.classify v).Upholds P := by
  cases v with
  | name text =>
      refine (upholds_resolveReference hP b text).bind fun id? => ?_
      cases id? with
      | some id => exact upholds_pure _
      | none => exact upholds_pure _
  | upTo direction pattern =>
      cases pattern with
      | some pattern => exact (hP.onGraph _).map Slot.product
      | none => exact upholds_pure _
  | native | fragment | textFunction | function | literal =>
      exact (upholds_resolveValue hP b hv).map Slot.product

section

variable (hP : Stable P) (b : Builder)
  (hargs : ∀ v ∈ args, ∀ make, v.function? = some make → ∀ b, (make b).Upholds P)

include hP hargs

theorem upholds_products : (b.products args).Upholds P := by
  have hslots : (args.mapM b.classify).Upholds P :=
    Upholds.mapM fun v hv => upholds_classify hP b (hargs v hv)
  exact hslots.bind fun slots => hP.onGraph _

theorem upholds_combine : (b.combine args).Upholds P :=
  (upholds_products hP b hargs).bind fun _ =>
    (hP.onGraph _).bind fun _ => (hP.modifyGraph _).bind fun _ => upholds_pure _

end

/-! ## Naming -/

theorem upholds_checkName (b : Builder) (name : String) : (b.checkName name).Upholds P := by
  refine (upholds_names b).bind fun names => ?_
  split
  · exact upholds_throw _
  · exact upholds_pure _

/-- Between reading the names and writing them back nothing else happens. -/
theorem upholds_insert (hP : Stable P) (b : Builder) (c : NameClass) (name : String)
    (fragment : FragmentId) : (b.insert c name fragment).Upholds P := by
  intro s hs
  have hafter : (b.insert c name fragment).after s =
      match (s.workspace.names b.registry).insert? c name fragment with
      | .ok names => (.ok (), { s with workspace := s.workspace.setNames b.registry names })
      | .error e => (.error e, s) := by
    simp only [insert, names, after_bind, after_workspace, after_pure, after_ofExcept]
    cases (s.workspace.names b.registry).insert? c name fragment <;> simp
  rw [hafter]
  split
  · rename_i names hinsert
    exact hP s _ hs (.insert hinsert)
  · exact hs

theorem upholds_register (hP : Stable P) (b : Builder) (c : NameClass) (name : String)
    (hv : ∀ make, v.function? = some make → ∀ b, (make b).Upholds P) :
    (b.register c name v).Upholds P :=
  (upholds_checkName b name).bind fun _ =>
    (upholds_resolveValue hP b hv).bind fun _ =>
      (upholds_insert hP b c name _).bind fun _ =>
        (hP.modifyGraph _).bind fun _ => upholds_pure _

theorem upholds_skip (hP : Stable P) (b : Builder)
    (hv : ∀ make, v.function? = some make → ∀ b, (make b).Upholds P) : (b.skip v).Upholds P := by
  have hinsert : ∀ name id, Upholds P do
      b.insert .group name id
      modifyGraph (·.modify id ({ · with skipped := true }))
      b.adopt id
      return id :=
    fun name id => (upholds_insert hP b .group name id).bind fun _ =>
      (hP.modifyGraph _).bind fun _ => (hP.modifyGraph _).bind fun _ => upholds_pure _
  refine (upholds_resolveValue hP b hv).bind fun target => (upholds_names b).bind fun names => ?_
  simp only []
  split
  · exact (hP.onGraph _).bind (hinsert names.skipName)
  · exact (upholds_pure target).bind (hinsert names.skipName)

theorem upholds_addLiteral (hP : Stable P) (b : Builder) (value : Literal) :
    (b.addLiteral value).Upholds P :=
  (hP.addSource _).bind fun _ => (hP.modifyGraph _).bind fun _ => upholds_pure _

/-! ## Patterns and expressions -/

section

variable (hP : Stable P) (b : Builder)
  (hargs : ∀ v ∈ args, ∀ make, v.function? = some make → ∀ b, (make b).Upholds P)

include hP hargs

theorem upholds_lookaround (direction : Direction) (negated : Bool) :
    (b.lookaround direction negated args).Upholds P :=
  (upholds_combine hP b hargs).bind fun _ =>
    upholds_graph.bind fun _ => (upholds_ofExcept _).bind fun _ => upholds_pure _

theorem upholds_captureGroups : (b.captureGroups args).Upholds P :=
  (upholds_products hP b hargs).bind fun _ =>
    upholds_graph.bind fun _ => (upholds_ofExcept _).bind fun _ => upholds_pure _

theorem upholds_compile : (b.compile args).Upholds P :=
  (upholds_combine hP b hargs).bind fun _ => upholds_graph.bind fun _ => upholds_ofExcept _

theorem upholds_source : (b.source args).Upholds P :=
  (upholds_combine hP b hargs).bind fun _ => upholds_graph.bind fun _ => upholds_ofExcept _

end

theorem upholds_toRegex (hP : Stable P) (b : Builder) (flags : Option Flags)
    (hv : ∀ make, v.function? = some make → ∀ b, (make b).Upholds P) : (b.toRegex v flags).Upholds P :=
  (upholds_resolveValue hP b hv).bind fun _ => upholds_graph.bind fun _ => upholds_ofExcept _

/-! ## Alternatives -/

theorem upholds_builderFor (hP : Stable P) (id : FragmentId) : (builderFor id).Upholds P := by
  refine upholds_workspace.bind fun w => ?_
  split
  · exact upholds_copy hP _
  · exact upholds_create hP none

theorem upholds_addAlternative (hP : Stable P) (id : FragmentId)
    (hargs : ∀ v ∈ args, ∀ make, v.function? = some make → ∀ b, (make b).Upholds P) :
    (addAlternative id args).Upholds P := by
  cases args with
  | nil => exact upholds_pure ()
  | cons v args =>
      exact (upholds_builderFor hP id).bind fun b =>
        (upholds_combine hP b hargs).lift_run.bind fun result =>
          (upholds_discard hP b).bind fun _ =>
            (upholds_ofExcept result).bind fun branch => hP.modifyGraph _

end Builder

end RegexComposition

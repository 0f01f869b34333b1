import RegexComposition.Proofs.Registry.SkipName
import RegexComposition.Proofs.Session.Workspaces

/-!
# The calls of a builder

A call first resolves its arguments, which is all that may run user functions.  What follows is
one change of the workspace or, if the call fails, none.

Main results:

- `Graph.Yields`: what a plain argument becomes.
- `Builder.resolveValue_cases`, `Builder.classify_cases`: resolving such an argument.
- `Builder.after_register`, `Builder.after_skip`: naming.
- `Builder.after_combine`, `Session.after_addAlternative`: combining.
-/

namespace RegexComposition

variable {σ α β : Type}

/-! ## States -/

namespace SessionState

/-- The state with another workspace. -/
def withWorkspace (s : SessionState σ) (w : Workspace) : SessionState σ := { s with workspace := w }

/-- The state with another fragment graph. -/
def withGraph (s : SessionState σ) (g : Graph) : SessionState σ :=
  s.withWorkspace { s.workspace with graph := g }

variable (s : SessionState σ)

@[simp]
theorem workspace_withWorkspace (w : Workspace) : (s.withWorkspace w).workspace = w := rfl

end SessionState

namespace Session

variable {s : SessionState σ}

/-- A mapped computation changes the state as the computation does. -/
theorem after_map (f : α → β) (m : Session σ α) :
    (f <$> m).after s = ((m.after s).1.map f, (m.after s).2) := by
  rw [map_eq_pure_bind, after_bind]
  generalize m.after s = outcome
  obtain ⟨result, s'⟩ := outcome
  cases result <;> rfl

theorem exists_of_after_map {f : α → β} {m : Session σ α} {b : β} {s' : SessionState σ}
    (h : (f <$> m).after s = (.ok b, s')) : ∃ a, m.after s = (.ok a, s') ∧ f a = b := by
  rw [map_eq_pure_bind] at h
  rcases exists_of_after_bind h with ⟨a, s₁, ha, hpure⟩
  cases hpure
  exact ⟨a, ha, rfl⟩

theorem of_map_eq_error {f : α → β} {m : Session σ α} {e : CompositionError} {s' : SessionState σ}
    (h : (f <$> m).after s = (.error e, s')) : m.after s = (.error e, s') := by
  rw [after_map] at h
  generalize m.after s = outcome at h ⊢
  obtain ⟨result, s₁⟩ := outcome
  cases result with
  | error e' =>
      cases h
      rfl
  | ok a => cases h

/-- A caught failure keeps the state that it leaves. -/
@[simp]
theorem after_lift_run (m : Session σ α) :
    after (ExceptT.lift m.run) s = (.ok (m.after s).1, (m.after s).2) := rfl

end Session

/-! ## Arguments -/

/-- What a plain argument becomes: a known fragment, a leaf, or a node around a known fragment. -/
inductive Graph.Yields (g : Graph) (known : FragmentId → Prop) : FragmentId → Graph → Prop
  | known {id : FragmentId} : known id → Yields g known id g
  | leaf (pattern : NativePattern) : Yields g known (g.addNative pattern).1 (g.addNative pattern).2
  | wrapper {id : FragmentId} (modifiers : Modifiers) : known id →
      Yields g known (g.addWrapper id modifiers).1 (g.addWrapper id modifiers).2

namespace Graph.Yields

variable {g g' : Graph} {known known' : FragmentId → Prop} {id : FragmentId}

theorem extends_graph (h : g.Yields known id g') : g.Extends g' := by
  cases h with
  | known => exact Extends.refl g
  | leaf pattern => exact extends_add g _
  | wrapper modifiers => exact extends_addWrapper g _ modifiers

theorem isClosed (h : g.Yields known id g') (hg : g.IsClosed) (hknown : ∀ id, known id → g.Has id) :
    g'.IsClosed := by
  cases h with
  | known => exact hg
  | leaf pattern => exact isClosed_add hg (by simp [FragmentKind.parts])
  | wrapper modifiers hid => exact isClosed_addWrapper hg (hknown _ hid) modifiers

theorem has (h : g.Yields known id g') (hknown : ∀ id, known id → g.Has id) : g'.Has id := by
  cases h with
  | known hid => exact hknown id hid
  | leaf pattern => exact has_add_self g _
  | wrapper modifiers => exact has_addWrapper_self g _ modifiers

theorem mono (h : g.Yields known id g') (hknown : ∀ id, known id → known' id) :
    g.Yields known' id g' := by
  cases h with
  | known hid => exact .known (hknown id hid)
  | leaf pattern => exact .leaf pattern
  | wrapper modifiers hid => exact .wrapper modifiers (hknown _ hid)

end Graph.Yields

namespace Builder

open Session

variable {s : SessionState σ} {v : Argument σ}

/-- An argument that is a function is resolved as its function is run. -/
theorem after_classify_of_function? {make : Builder → Session σ FragmentId}
    (hv : v.function? = some make) (b : Builder) (s : SessionState σ) :
    (b.classify v).after s = (((make b).after s).1.map Slot.product, ((make b).after s).2) := by
  rw [Argument.classify_of_function? hv, after_map]

/-- The fragments that an argument can refer to: those registered and the argument itself. -/
def Knows (b : Builder) (w : Workspace) (v : Argument σ) (id : FragmentId) : Prop :=
  (w.names b.registry).Registers id ∨ v = .fragment id

/-- A name is an error or refers to nothing or to some fragment. -/
theorem resolveReference_cases (b : Builder) (name : String) (s : SessionState σ) :
    (∃ e, (b.resolveReference name).after s = (.error e, s)) ∨
      (b.resolveReference name).after s = (.ok none, s) ∨
      ∃ id g, (b.resolveReference name).after s = (.ok (some id), s.withGraph g) ∧
        s.workspace.graph.Yields (s.workspace.names b.registry).Registers id g := by
  simp only [resolveReference, after_bind, after_workspace]
  split
  · next resolution hresolve =>
      have htarget := Registry.registers_of_resolve? hresolve
      refine .inr (.inr ?_)
      unfold ofResolution
      split
      · exact ⟨_, _, rfl, .known htarget⟩
      · exact ⟨_, _, rfl, .wrapper resolution.modifiers htarget⟩
  · split
    · exact .inr (.inr ⟨_, _, rfl, .leaf _⟩)
    · split
      · exact .inl ⟨_, rfl⟩
      · exact .inr (.inl rfl)

/-- A plain value is an error or some fragment. -/
theorem resolveValue_cases (b : Builder) (s : SessionState σ) (hv : v.IsPlain) :
    (∃ e, (b.resolveValue v).after s = (.error e, s)) ∨
      ∃ id g, (b.resolveValue v).after s = (.ok id, s.withGraph g) ∧
        s.workspace.graph.Yields (b.Knows s.workspace v) id g := by
  cases v with
  | native pattern => exact .inr ⟨_, _, rfl, .leaf pattern⟩
  | fragment id => exact .inr ⟨_, _, rfl, .known (.inr rfl)⟩
  | name text =>
      simp only [resolveValue, after_bind]
      rcases resolveReference_cases b text s with ⟨e, heq⟩ | heq | ⟨id, g, heq, hid⟩
      · rw [heq]
        exact .inl ⟨_, rfl⟩
      · rw [heq]
        exact .inl ⟨_, rfl⟩
      · rw [heq]
        exact .inr ⟨_, _, rfl, hid.mono fun _ => .inl⟩
  | textFunction text =>
      obtain ⟨t, rfl⟩ := hv
      exact .inr ⟨_, _, rfl, .leaf _⟩
  | function make => exact hv.elim
  | literal value => exact .inr ⟨_, _, rfl, .leaf _⟩
  | upTo direction pattern => exact .inl ⟨_, rfl⟩

/-- In a list a plain argument is an error, some fragment or none. -/
theorem classify_cases (b : Builder) (s : SessionState σ) (hv : v.IsPlain) :
    (∃ e, (b.classify v).after s = (.error e, s)) ∨
      (∃ slot, (∀ id, slot ≠ .product id) ∧ (b.classify v).after s = (.ok slot, s)) ∨
      ∃ id g, (b.classify v).after s = (.ok (.product id), s.withGraph g) ∧
        s.workspace.graph.Yields (b.Knows s.workspace v) id g := by
  cases v with
  | name text =>
      simp only [classify, after_bind]
      rcases resolveReference_cases b text s with ⟨e, heq⟩ | heq | ⟨id, g, heq, hid⟩
      · rw [heq]
        exact .inl ⟨_, rfl⟩
      · rw [heq]
        exact .inr (.inl ⟨_, fun _ => Slot.noConfusion, rfl⟩)
      · rw [heq]
        exact .inr (.inr ⟨_, _, rfl, hid.mono fun _ => .inl⟩)
  | upTo direction pattern =>
      cases pattern with
      | some pattern => exact .inr (.inr ⟨_, _, rfl, .leaf pattern⟩)
      | none => exact .inr (.inl ⟨_, fun _ => Slot.noConfusion, rfl⟩)
  | native | fragment | textFunction | function | literal =>
      simp only [classify, after_map]
      rcases resolveValue_cases b s hv with ⟨e, heq⟩ | ⟨id, g, heq, hid⟩
      · rw [heq]
        exact .inl ⟨_, rfl⟩
      · rw [heq]
        exact .inr (.inr ⟨_, _, rfl, hid⟩)

/-! ## Naming -/

@[simp]
theorem after_names (b : Builder) (s : SessionState σ) :
    b.names.after s = (.ok (s.workspace.names b.registry), s) := rfl

theorem after_checkName (b : Builder) (name : String) (s : SessionState σ) :
    (b.checkName name).after s =
      match (s.workspace.names b.registry).nameError? name with
      | some e => (.error e, s)
      | none => (.ok (), s) := by
  simp only [checkName, after_bind, after_names]
  cases (s.workspace.names b.registry).nameError? name <;> rfl

theorem after_insert (b : Builder) (c : NameClass) (name : String) (id : FragmentId)
    (s : SessionState σ) :
    (b.insert c name id).after s =
      match (s.workspace.names b.registry).insert? c name id with
      | .ok names => (.ok (), s.withWorkspace (s.workspace.setNames b.registry names))
      | .error e => (.error e, s) := by
  simp only [insert, after_bind, after_names, after_ofExcept]
  cases (s.workspace.names b.registry).insert? c name id <;> rfl

/-- A value is resolved if the name can be given, and it gets the name if that is still so. -/
theorem after_register (b : Builder) (c : NameClass) (name : String) (v : Argument σ)
    (s : SessionState σ) :
    (b.register c name v).after s =
      match (s.workspace.names b.registry).nameError? name with
      | some e => (.error e, s)
      | none =>
        match (b.resolveValue v).after s with
        | (.error e, s') => (.error e, s')
        | (.ok id, s') =>
          match (s'.workspace.names b.registry).insert? c name id with
          | .error e => (.error e, s')
          | .ok names => (.ok id, s'.withWorkspace (s'.workspace.named b.registry names id)) := by
  simp only [register, after_bind, after_checkName]
  cases (s.workspace.names b.registry).nameError? name with
  | some e => rfl
  | none =>
      simp only []
      generalize (b.resolveValue v).after s = outcome
      obtain ⟨result, s'⟩ := outcome
      cases result with
      | error e => rfl
      | ok id =>
          simp only [after_insert]
          cases (s'.workspace.names b.registry).insert? c name id <;> rfl

theorem after_insert_skipped (b : Builder) (name : String) (id : FragmentId) {names : Registry}
    (hnames : (s.workspace.names b.registry).insert? .group name id = .ok names) :
    after (do
      b.insert .group name id
      modifyGraph (·.modify id ({ · with skipped := true }))
      b.adopt id
      return id) s = (.ok id, s.withWorkspace (s.workspace.skipped b.registry names id)) := by
  simp only [after_bind, after_insert, hnames]
  rfl

/-- A value that has been resolved is skipped: there is always a name for it. -/
theorem after_skip (b : Builder) (v : Argument σ) (s : SessionState σ) :
    match (b.resolveValue v).after s with
    | (.error e, s') => (b.skip v).after s = (.error e, s')
    | (.ok target, s') =>
      ∃ names, (s'.workspace.names b.registry).insert? .group
          (s'.workspace.names b.registry).skipName (s'.workspace.skipTarget b.registry target).1 =
            .ok names ∧
        (b.skip v).after s = (.ok (s'.workspace.skipTarget b.registry target).1,
          s'.withWorkspace ((s'.workspace.skipTarget b.registry target).2.skipped b.registry names
            (s'.workspace.skipTarget b.registry target).1)) := by
  rw [skip, after_bind]
  generalize (b.resolveValue v).after s = outcome
  obtain ⟨result, s'⟩ := outcome
  cases result with
  | error e => rfl
  | ok target =>
      obtain ⟨names, hnames⟩ := (s'.workspace.names b.registry).exists_insert?_skipName
        (s'.workspace.skipTarget b.registry target).1
      refine ⟨names, hnames, ?_⟩
      dsimp only
      rw [after_bind, after_names]
      dsimp only
      by_cases hregistered : (s'.workspace.names b.registry).containsFragment target = true
      · simp only [Workspace.skipTarget, if_pos hregistered] at hnames ⊢
        rw [after_bind, after_onGraph]
        exact after_insert_skipped b _ _ hnames
      · simp only [Workspace.skipTarget, if_neg hregistered] at hnames ⊢
        rw [after_bind, after_pure]
        exact after_insert_skipped b _ _ hnames

/-! ## Combining -/

/-- Arguments are resolved one after the other. -/
theorem after_classify_cons (b : Builder) (v : Argument σ) (args : List (Argument σ))
    (s : SessionState σ) :
    ((v :: args).mapM b.classify).after s =
      match (b.classify v).after s with
      | (.error e, s') => (.error e, s')
      | (.ok slot, s') => ((slot :: ·) <$> args.mapM b.classify).after s' := by
  rw [List.mapM_cons, after_bind]
  generalize (b.classify v).after s = outcome
  obtain ⟨result, s'⟩ := outcome
  cases result with
  | error e => rfl
  | ok slot =>
      dsimp only
      rw [map_eq_pure_bind]

theorem after_products (b : Builder) (args : List (Argument σ)) (s : SessionState σ) :
    (b.products args).after s =
      match (args.mapM b.classify).after s with
      | (.error e, s') => (.error e, s')
      | (.ok slots, s') => (.ok (assemble slots s'.workspace.graph).1,
          s'.withGraph (assemble slots s'.workspace.graph).2) := by
  rw [products, after_bind]
  generalize (args.mapM b.classify).after s = outcome
  obtain ⟨result, s'⟩ := outcome
  cases result <;> rfl

theorem after_combine (b : Builder) (args : List (Argument σ)) (s : SessionState σ) :
    (b.combine args).after s =
      match (b.products args).after s with
      | (.error e, s') => (.error e, s')
      | (.ok products, s') =>
          (.ok (s'.workspace.graph.combined b.registry (products.filterMap id)).1,
            s'.withGraph (s'.workspace.graph.combined b.registry (products.filterMap id)).2) := by
  rw [combine, after_bind]
  generalize (b.products args).after s = outcome
  obtain ⟨result, s'⟩ := outcome
  cases result <;> rfl

end Builder

/-! ## Alternatives -/

namespace Session

/-- The builder for additions to a fragment uses the registry of the fragment as long as that is
in use, and a new one otherwise. -/
theorem after_builderFor (id : FragmentId) (s : SessionState σ) :
    (builderFor id).after s =
      match (s.workspace.graph.node id).registry.filter s.workspace.isLive with
      | some r => (.ok ⟨r, none⟩, s.withWorkspace (s.workspace.acquire r))
      | none =>
          (.ok ⟨s.workspace.addRegistry.1, none⟩, s.withWorkspace s.workspace.addRegistry.2) := by
  simp only [builderFor, after_bind, after_workspace]
  cases (s.workspace.graph.node id).registry.filter s.workspace.isLive <;> rfl

theorem registry_of_builderFor {id : FragmentId} {s s' : SessionState σ} {b : Builder}
    (hb : (builderFor id).after s = (.ok b, s')) :
    b.registry = s.workspace.registryFor id := by
  rw [after_builderFor] at hb
  unfold Workspace.registryFor
  generalize (s.workspace.graph.node id).registry.filter s.workspace.isLive = registry at hb ⊢
  cases registry <;> cases hb <;> rfl

/-- A builder for additions to a fragment has a registry, and all fragments are as before. -/
theorem exists_builderFor (id : FragmentId) (s : SessionState σ) :
    ∃ b w, (builderFor id).after s = (.ok b, s.withWorkspace w) ∧
      w.graph = s.workspace.graph ∧ s.workspace.Extends w ∧ w.HasRegistry b.registry := by
  rw [after_builderFor]
  split
  · next r hr =>
      have hlive := (Option.filter_eq_some_iff.1 hr).2
      have hextends := s.workspace.extends_acquire r
      exact ⟨_, _, rfl, rfl, hextends,
        Nat.lt_of_lt_of_le (Workspace.hasRegistry_of_isLive hlive) hextends.size_le⟩
  · exact ⟨_, _, rfl, rfl, Workspace.extends_addRegistry _,
      by simp [Workspace.HasRegistry, Workspace.addRegistry]⟩

/-- Nothing is added unless the combination has been made. -/
theorem after_addAlternative (id : FragmentId) {args : List (Argument σ)} (hargs : args ≠ [])
    {s s' : SessionState σ} {b : Builder} (hb : (builderFor id).after s = (.ok b, s')) :
    (addAlternative id args).after s =
      match (b.combine args).after s' with
      | (.error e, s') => (.error e, s'.withWorkspace (s'.workspace.release b.registry))
      | (.ok branch, s') => (.ok (), s'.withWorkspace { s'.workspace.release b.registry with
          graph := s'.workspace.graph.pushAlternative id branch }) := by
  cases args with
  | nil => exact absurd rfl hargs
  | cons v args =>
      simp only [addAlternative, after_bind, hb, after_lift_run]
      generalize (b.combine (v :: args)).after s' = outcome
      obtain ⟨result, s''⟩ := outcome
      cases result <;> rfl

end Session

end RegexComposition

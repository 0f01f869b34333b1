import RegexComposition.Capture
import RegexComposition.Proofs.Session.Moments

/-!
# Conduct

A program obeys a rule on actions if every action that it takes is allowed at the moment at which
it is taken.  Programs use what builders and fragments offer, with fragments and builders that
exist.  The functions that they hand over are such programs, each one judged in the states in which
it is called.

Main results:

- `Builder.Calls`: in which states the functions among arguments are called.
- `Obeys`: the programs that obey a rule.
- `Obeys.path`: they only go ways on which all actions are allowed.
- `Obeys.path_calledAt`: what the actions keep holds already when a call is made.
- `Obeys.lookaround`, `Obeys.compile`, `Obeys.capture` and the like: calls that are made of others.
-/

namespace RegexComposition

variable {σ α β : Type}

open Chronicle Session

/-! ## Arguments -/

/-- While the arguments are resolved from the second state on, the function among them is called in
the first one. -/
inductive Builder.Calls (b : Builder) (make : Builder → Session σ FragmentId)
    (called : SessionState σ) : List (Argument σ) → SessionState σ → Prop
  | here {v : Argument σ} {args : List (Argument σ)} :
      v.function? = some make → Calls b make called (v :: args) called
  | there {v : Argument σ} {args : List (Argument σ)} {s s' : SessionState σ}
      {slot : Builder.Slot} :
      (b.classify v).after s = (.ok slot, s') → Calls b make called args s' →
      Calls b make called (v :: args) s

/-- Only functions among the arguments are called. -/
theorem Builder.Calls.exists_mem {b : Builder} {make : Builder → Session σ FragmentId}
    {called s : SessionState σ} {args : List (Argument σ)} (h : b.Calls make called args s) :
    ∃ v ∈ args, v.function? = some make := by
  induction h with
  | here hv => exact ⟨_, List.mem_cons_self, hv⟩
  | there _ _ ih =>
      obtain ⟨v, hmem, hv⟩ := ih
      exact ⟨v, List.mem_cons_of_mem _ hmem, hv⟩

/-- A single value is resolved at once. -/
theorem Builder.Calls.single {b : Builder} {make make' : Builder → Session σ FragmentId}
    {called s : SessionState σ} (h : b.Calls make called [.function make'] s) :
    make = make' ∧ called = s := by
  cases h with
  | here hv => exact ⟨(Option.some.inj hv).symm, rfl⟩
  | there _ h => cases h

/-- The registry of the builder exists, and so do the fragments among the arguments and those that
functions among them make. -/
structure Builder.Admits (b : Builder) (args : List (Argument σ)) (s : SessionState σ) : Prop where
  hasRegistry : s.workspace.HasRegistry b.registry
  has : ∀ id, .fragment id ∈ args → s.workspace.graph.Has id
  has_of_calls : ∀ make s' id s'', b.Calls make s' args s → (make b).after s' = (.ok id, s'') →
    s''.workspace.graph.Has id

/-- A plain function adds a leaf. -/
theorem Builder.Calls.exists_leaf {b : Builder} {make : Builder → Session σ FragmentId}
    {called s : SessionState σ} {args : List (Argument σ)} (h : b.Calls make called args s)
    (hargs : ∀ v ∈ args, v.IsPlain) :
    ∃ pattern, make b = onGraph (·.addNative pattern) := by
  obtain ⟨v, hmem, hv⟩ := h.exists_mem
  exact (hargs v hmem).exists_leaf hv b

/-- Plain arguments are admitted if their fragments exist. -/
theorem Builder.Admits.of_forall {b : Builder} {args : List (Argument σ)} {s : SessionState σ}
    (hb : s.workspace.HasRegistry b.registry) (hargs : ∀ v ∈ args, v.IsPlain)
    (hids : ∀ id, .fragment id ∈ args → s.workspace.graph.Has id) : b.Admits args s where
  hasRegistry := hb
  has := hids
  has_of_calls := by
    intro make s' id s'' hcalls houtcome
    obtain ⟨pattern, hmake⟩ := hcalls.exists_leaf hargs
    rw [hmake] at houtcome
    cases houtcome
    exact Graph.has_add_self _ _

/-- A function as the only argument is admitted if the fragment that it makes exists. -/
theorem Builder.Admits.of_function {b : Builder} {make : Builder → Session σ FragmentId}
    {s : SessionState σ} (id : FragmentId) (hb : s.workspace.HasRegistry b.registry)
    (hid : ((make b).after s).1 = .ok id) (hhas : ((make b).after s).2.workspace.graph.Has id) :
    b.Admits [.function make] s where
  hasRegistry := hb
  has := by simp
  has_of_calls := by
    intro make' s' id' s'' hcalls houtcome
    obtain ⟨rfl, rfl⟩ := hcalls.single
    rw [houtcome] at hid hhas
    obtain rfl := Except.ok.inj hid
    exact hhas

/-! ## Programs -/

/-- Programs that obey a rule from a state on. -/
inductive Obeys {σ : Type} (may : Moment → Action → Prop) :
    {α : Type} → Session (Chronicle σ) α → SessionState (Chronicle σ) → Prop
  | pure {α : Type} {s : SessionState (Chronicle σ)} (a : α) : Obeys may (Pure.pure a) s
  | throw {α : Type} {s : SessionState (Chronicle σ)} (e : CompositionError) :
      Obeys may (MonadExcept.throw e : Session (Chronicle σ) α) s
  | bind {α β : Type} {m : Session (Chronicle σ) α} {f : α → Session (Chronicle σ) β}
      {s : SessionState (Chronicle σ)} :
      Obeys may m s → (∀ a s', m.after s = (.ok a, s') → Obeys may (f a) s') →
      Obeys may (m >>= f) s
  | attempt {α : Type} {m : Session (Chronicle σ) α} {s : SessionState (Chronicle σ)} :
      Obeys may m s → Obeys may (ExceptT.lift m.run) s
  | note {s : SessionState (Chronicle σ)} : Obeys may Chronicle.note s
  | remember {α : Type} {s : SessionState (Chronicle σ)} (f : σ → α × σ) :
      Obeys may (Chronicle.remember f) s
  | workspace {s : SessionState (Chronicle σ)} : Obeys may Session.workspace s
  | create {s : SessionState (Chronicle σ)} (flags : Option Flags) :
      Obeys may (Builder.create flags) s
  | copy {s : SessionState (Chronicle σ)} (b : Builder) : Obeys may b.copy s
  | discard {s : SessionState (Chronicle σ)} (b : Builder) : Obeys may b.discard s
  | resolveValue {b : Builder} {v : Argument (Chronicle σ)} {s : SessionState (Chronicle σ)} :
      b.Admits [v] s → (∀ make s', b.Calls make s' [v] s → Obeys may (make b) s') →
      Obeys may (b.resolveValue v) s
  | products {b : Builder} {args : List (Argument (Chronicle σ))}
      {s : SessionState (Chronicle σ)} :
      b.Admits args s → (∀ make s', b.Calls make s' args s → Obeys may (make b) s') →
      Obeys may (b.products args) s
  | combine {b : Builder} {args : List (Argument (Chronicle σ))} {s : SessionState (Chronicle σ)} :
      b.Admits args s → (∀ make s', b.Calls make s' args s → Obeys may (make b) s') →
      (∀ products s', (b.products args).after s = (.ok products, s') →
        may (now s') (.make b.registry (.composite (products.filterMap id)))) →
      Obeys may (b.combine args) s
  | addLiteral {b : Builder} {value : Literal} {s : SessionState (Chronicle σ)} :
      may (now s) (.make b.registry (.native (NativePattern.ofSource value.source))) →
      Obeys may (b.addLiteral value) s
  | register {b : Builder} {c : NameClass} {name : String} {v : Argument (Chronicle σ)}
      {s : SessionState (Chronicle σ)} :
      ((s.workspace.names b.registry).nameError? name = none → b.Admits [v] s) →
      ((s.workspace.names b.registry).nameError? name = none →
        ∀ make s', b.Calls make s' [v] s → Obeys may (make b) s') →
      (∀ id s', (s.workspace.names b.registry).nameError? name = none →
        (b.resolveValue v).after s = (.ok id, s') →
        (s'.workspace.names b.registry).nameError? name = none →
        may (now s') (.name b.registry c name id)) →
      Obeys may (Chronicle.register b c name v) s
  | skip {b : Builder} {v : Argument (Chronicle σ)} {s : SessionState (Chronicle σ)} :
      b.Admits [v] s → (∀ make s', b.Calls make s' [v] s → Obeys may (make b) s') →
      (∀ target s', (b.resolveValue v).after s = (.ok target, s') →
        may (now s') (.skip b.registry target)) →
      Obeys may (b.skip v) s
  | addAlternative {target : FragmentId} {args : List (Argument (Chronicle σ))}
      {s : SessionState (Chronicle σ)} :
      s.workspace.graph.Has target →
      (∀ b s', (builderFor target).after s = (.ok b, s') → b.Admits args s') →
      (∀ b s', (builderFor target).after s = (.ok b, s') →
        ∀ make s'', b.Calls make s'' args s' → Obeys may (make b) s'') →
      (∀ b s', (builderFor target).after s = (.ok b, s') →
        ∀ products s'', (b.products args).after s' = (.ok products, s'') →
          may (now s'') (.branch (now s) target (products.filterMap id))) →
      Obeys may (Session.addAlternative target args) s
  | addFragment {inputs : List Input} {s : SessionState (Chronicle σ)} :
      (∀ id, .fragment id ∈ inputs → s.workspace.graph.Has id) →
      Obeys may (Session.addFragment inputs) s
  | restyle {id : FragmentId} {f : Node → Node} {s : SessionState (Chronicle σ)} :
      Node.Restyles f → may (now s) (.restyle id) →
      Obeys may (modifyGraph (·.modify id f)) s

/-! ## Resolving arguments -/

namespace Builder

variable {may : Moment → Action → Prop} {b : Builder} {v : Argument (Chronicle σ)}
variable {args : List (Argument (Chronicle σ))} {s s' : SessionState (Chronicle σ)}

/-- In a sound workspace the fragments that an argument can refer to exist. -/
theorem Admits.has_of_knows (hs : s.workspace.IsSound) (h : b.Admits (v :: args) s)
    {id : FragmentId} (hid : b.Knows s.workspace v id) : s.workspace.graph.Has id := by
  rcases hid with hregisters | rfl
  · exact hs.has b.registry id hregisters
  · exact h.has id List.mem_cons_self

/-- After the first argument the others are still admitted. -/
theorem Admits.tail {slot : Slot} (h : b.Admits (v :: args) s)
    (hclassify : (b.classify v).after s = (.ok slot, s')) (hpath : Path may s s') :
    b.Admits args s' where
  hasRegistry := hpath.hasRegistry h.hasRegistry
  has := fun id hid => hpath.has (h.has id (List.mem_cons_of_mem _ hid))
  has_of_calls := fun make s₁ id s₂ hcalls => h.has_of_calls make s₁ id s₂ (.there hclassify hcalls)

/-- What a plain argument becomes is an addition. -/
theorem path_of_yields (may : Moment → Action → Prop) {id : FragmentId} {g : Graph}
    (hs : s.workspace.IsSound) (h : b.Admits (v :: args) s)
    (hyields : s.workspace.graph.Yields (b.Knows s.workspace v) id g) :
    Path may s (s.withGraph g) ∧ g.Has id := by
  have hknown : ∀ id, b.Knows s.workspace v id → s.workspace.graph.Has id :=
    fun id hid => h.has_of_knows hs hid
  refine ⟨.of_move (.extend (.of_graph hyields.extends_graph) ?_), hyields.has hknown⟩
  exact hyields.isClosed hs.isClosed hknown

section

variable (hs : s.workspace.IsSound) (hadmits : b.Admits (v :: args) s)
  (hcalls : ∀ make s', b.Calls make s' (v :: args) s → Path may s s' →
    Path may s' ((make b).after s').2)

include hs hadmits hcalls

/-- Resolving a value goes an allowed way if its function does, and the fragment exists. -/
theorem path_resolveValue :
    Path may s ((b.resolveValue v).after s).2 ∧
      ∀ id s', (b.resolveValue v).after s = (.ok id, s') → s'.workspace.graph.Has id := by
  cases hfunction : v.function? with
  | none =>
      have hplain := Argument.isPlain_of_function?_eq_none hfunction
      rcases resolveValue_cases b s hplain with ⟨e, heq⟩ | ⟨id, g, heq, hyields⟩
      · rw [heq]
        exact ⟨.refl s, fun id s' h => nomatch h⟩
      · obtain ⟨hpath, hid⟩ := path_of_yields may hs hadmits hyields
        rw [heq]
        refine ⟨hpath, fun id' s' h => ?_⟩
        cases h
        exact hid
  | some make =>
      rw [Argument.resolveValue_of_function? hfunction]
      exact ⟨hcalls make s (.here hfunction) (.refl s),
        fun id s' h => hadmits.has_of_calls make s id s' (.here hfunction) h⟩

/-- The same for the first argument of a list. -/
theorem path_classify :
    Path may s ((b.classify v).after s).2 ∧
      ∀ id s', (b.classify v).after s = (.ok (.product id), s') → s'.workspace.graph.Has id := by
  cases hfunction : v.function? with
  | none =>
      have hplain := Argument.isPlain_of_function?_eq_none hfunction
      rcases classify_cases b s hplain with
        ⟨e, heq⟩ | ⟨slot, hslot, heq⟩ | ⟨id, g, heq, hyields⟩
      · rw [heq]
        exact ⟨.refl s, fun id s' h => nomatch h⟩
      · rw [heq]
        refine ⟨.refl s, fun id s' h => ?_⟩
        cases h
        exact absurd rfl (hslot id)
      · obtain ⟨hpath, hid⟩ := path_of_yields may hs hadmits hyields
        rw [heq]
        refine ⟨hpath, fun id' s' h => ?_⟩
        cases h
        exact hid
  | some make =>
      rw [after_classify_of_function? hfunction]
      refine ⟨hcalls make s (.here hfunction) (.refl s), fun id s' h => ?_⟩
      cases hmake : (make b).after s with
      | mk result s₁ =>
          rw [hmake] at h
          cases result with
          | error e => cases h
          | ok id' =>
              cases h
              exact hadmits.has_of_calls make s id _ (.here hfunction) hmake

end

/-- The arguments of a list are resolved from left to right. -/
theorem path_mapM_classify (hs : s.workspace.IsSound) (hadmits : b.Admits args s)
    (hcalls : ∀ make s', b.Calls make s' args s → Path may s s' →
      Path may s' ((make b).after s').2) :
    Path may s ((args.mapM b.classify).after s).2 ∧
      ∀ slots s', (args.mapM b.classify).after s = (.ok slots, s') →
        ∀ id, .product id ∈ slots → s'.workspace.graph.Has id := by
  induction args generalizing s with
  | nil =>
      refine ⟨.refl s, fun slots s' h id hid => ?_⟩
      cases h
      cases hid
  | cons v args ih =>
      obtain ⟨hpath, hproduct⟩ := path_classify hs hadmits hcalls
      rw [after_classify_cons]
      cases hclassify : (b.classify v).after s with
      | mk result s₁ =>
          rw [hclassify] at hpath
          cases result with
          | error e => exact ⟨hpath, fun slots s' h => nomatch h⟩
          | ok slot =>
              obtain ⟨hrest, hslots⟩ := ih (hpath.isSound hs) (hadmits.tail hclassify hpath)
                fun make s' hmake hlater =>
                  hcalls make s' (.there hclassify hmake) (hpath.trans hlater)
              simp only [after_map]
              refine ⟨hpath.trans hrest, fun slots s' h id hid => ?_⟩
              cases hmapM : (args.mapM b.classify).after s₁ with
              | mk result s₂ =>
                  rw [hmapM] at h hrest
                  cases result with
                  | error e => cases h
                  | ok later =>
                      cases h
                      rcases List.mem_cons.1 hid with rfl | hid
                      · exact hrest.has (hproduct id s₁ hclassify)
                      · exact hslots later s₂ hmapM id hid

/-- The fragments of all arguments exist. -/
theorem path_products (hs : s.workspace.IsSound) (hadmits : b.Admits args s)
    (hcalls : ∀ make s', b.Calls make s' args s → Path may s s' →
      Path may s' ((make b).after s').2) :
    Path may s ((b.products args).after s).2 ∧
      ∀ products s', (b.products args).after s = (.ok products, s') →
        ∀ id, some id ∈ products → s'.workspace.graph.Has id := by
  obtain ⟨hpath, hslots⟩ := path_mapM_classify hs hadmits hcalls
  rw [after_products]
  cases hmapM : (args.mapM b.classify).after s with
  | mk result s₁ =>
      rw [hmapM] at hpath
      cases result with
      | error e => exact ⟨hpath, fun slots s' h => nomatch h⟩
      | ok slots =>
          have hsound := hpath.isSound hs
          have hids := hslots slots s₁ hmapM
          refine ⟨hpath.trans (.of_move (.extend (.of_graph (Graph.extends_assemble slots _)) ?_)),
            fun products s' h id hid => ?_⟩
          · exact Graph.isClosed_assemble hsound.isClosed hids
          · cases h
            exact Graph.has_of_mem_assemble hids hid

end Builder

/-! ## The ways of programs -/

namespace Path

variable {may : Moment → Action → Prop} {m : Session (Chronicle σ) α}
variable {f : α → Session (Chronicle σ) β} {s s' : SessionState (Chronicle σ)}

/-- One program after the other. -/
theorem bind (hm : Path may s (m.after s).2)
    (hf : ∀ a s', m.after s = (.ok a, s') → Path may s' ((f a).after s').2) :
    Path may s ((m >>= f).after s).2 := by
  rw [after_bind]
  cases houtcome : m.after s with
  | mk result s' =>
      rw [houtcome] at hm
      cases result with
      | error e => exact hm
      | ok a => exact hm.trans (hf a s' houtcome)

theorem extend {w : Workspace} (h : s.workspace.Extends w) (hw : w.graph.IsClosed) :
    Path may s (s.withWorkspace w) :=
  of_move (.extend h hw)

theorem act {a : Action} {p : Moment} (hmay : may (now s) a) (h : (now s).Acts a p) :
    Path may s (goTo s p) :=
  of_move (.act hmay h)

end Path

namespace Builder

variable {may : Moment → Action → Prop} {b : Builder} {v : Argument (Chronicle σ)}
variable {args : List (Argument (Chronicle σ))} {s : SessionState (Chronicle σ)}

theorem path_combine (hs : s.workspace.IsSound) (hadmits : b.Admits args s)
    (hcalls : ∀ make s', b.Calls make s' args s → Path may s s' →
      Path may s' ((make b).after s').2)
    (hmay : ∀ products s', (b.products args).after s = (.ok products, s') →
      may (now s') (.make b.registry (.composite (products.filterMap id)))) :
    Path may s ((b.combine args).after s).2 := by
  obtain ⟨hpath, hids⟩ := path_products hs hadmits hcalls
  rw [after_combine]
  cases hproducts : (b.products args).after s with
  | mk result s₁ =>
      rw [hproducts] at hpath
      cases result with
      | error e => exact hpath
      | ok products =>
          have hsound := hpath.isSound hs
          refine hpath.trans (.act (hmay products s₁ hproducts) (.make ?_))
          exact Graph.places_addComposite hsound.isClosed fun id hid =>
            hids products s₁ hproducts id (by simpa using hid)

theorem path_addLiteral {value : Literal} (hs : s.workspace.IsSound)
    (hmay : may (now s) (.make b.registry (.native (NativePattern.ofSource value.source)))) :
    Path may s ((b.addLiteral value).after s).2 :=
  .act hmay (.make (Graph.places_addNative hs.isClosed _))

theorem path_register {c : NameClass} {name : String} (hs : s.workspace.IsSound)
    (hadmits : (s.workspace.names b.registry).nameError? name = none → b.Admits [v] s)
    (hcalls : (s.workspace.names b.registry).nameError? name = none →
      ∀ make s', b.Calls make s' [v] s → Path may s s' → Path may s' ((make b).after s').2)
    (hmay : ∀ id s', (s.workspace.names b.registry).nameError? name = none →
      (b.resolveValue v).after s = (.ok id, s') →
      (s'.workspace.names b.registry).nameError? name = none →
      may (now s') (.name b.registry c name id)) :
    Path may s ((Chronicle.register b c name v).after s).2 := by
  rw [Chronicle.register, after_bind, after_register]
  cases hfree : (s.workspace.names b.registry).nameError? name with
  | some e => exact .refl s
  | none =>
      obtain ⟨hpath, hid⟩ := path_resolveValue hs (hadmits hfree) (hcalls hfree)
      cases hvalue : (b.resolveValue v).after s with
      | mk result s₁ =>
          rw [hvalue] at hpath
          cases result with
          | error e => exact hpath
          | ok id =>
              cases hinsert : (s₁.workspace.names b.registry).insert? c name id with
              | error e =>
                  simp only [hinsert]
                  exact hpath
              | ok names =>
                  have hinserts := Registry.inserts_of_insert? hinsert
                  have hstill : (s₁.workspace.names b.registry).nameError? name = none :=
                    Registry.nameError?_eq_none_iff.2 ⟨hinserts.ne_empty, hinserts.notMem⟩
                  simp only [hinsert]
                  exact hpath.trans (.act (hmay id s₁ hfree hvalue hstill)
                    (.name (hpath.hasRegistry (hadmits hfree).hasRegistry) (hid id s₁ hvalue)
                      hinsert))

theorem path_skip (hs : s.workspace.IsSound) (hadmits : b.Admits [v] s)
    (hcalls : ∀ make s', b.Calls make s' [v] s → Path may s s' →
      Path may s' ((make b).after s').2)
    (hmay : ∀ target s', (b.resolveValue v).after s = (.ok target, s') →
      may (now s') (.skip b.registry target)) : Path may s ((b.skip v).after s).2 := by
  obtain ⟨hpath, hid⟩ := path_resolveValue hs hadmits hcalls
  have hskip := after_skip b v s
  cases hvalue : (b.resolveValue v).after s with
  | mk result s₁ =>
      rw [hvalue] at hpath hskip
      cases result with
      | error e =>
          rw [hskip]
          exact hpath
      | ok target =>
          obtain ⟨names, hnames, heq⟩ := hskip
          have hacts := Moment.Acts.skip (p := now s₁) (hpath.hasRegistry hadmits.hasRegistry)
            (hid target s₁ hvalue) hnames
          have hact := Path.act (hmay target s₁ hvalue) hacts
          rw [heq]
          exact hpath.trans hact

theorem path_addAlternative {target : FragmentId} (hs : s.workspace.IsSound)
    (htarget : s.workspace.graph.Has target)
    (hadmits : ∀ b s', (builderFor target).after s = (.ok b, s') → b.Admits args s')
    (hcalls : ∀ b s', (builderFor target).after s = (.ok b, s') →
      ∀ make s'', b.Calls make s'' args s' → Path may s s'' →
        Path may s'' ((make b).after s'').2)
    (hmay : ∀ b s', (builderFor target).after s = (.ok b, s') →
      ∀ products s'', (b.products args).after s' = (.ok products, s'') →
        may (now s'') (.branch (now s) target (products.filterMap id))) :
    Path may s ((Session.addAlternative target args).after s).2 := by
  by_cases hargs : args = []
  · subst hargs
    exact .refl s
  · obtain ⟨b, w, hb, hgraph, hextends, -⟩ := exists_builderFor target s
    have hfirst : Path may s (s.withWorkspace w) := .extend hextends (hgraph ▸ hs.isClosed)
    have hsound := hfirst.isSound hs
    obtain ⟨hpath, hids⟩ := path_products hsound (hadmits b _ hb) fun make s' hmake hlater =>
      hcalls b _ hb make s' hmake (hfirst.trans hlater)
    rw [after_addAlternative target hargs hb, after_combine, registry_of_builderFor hb]
    cases hproducts : (b.products args).after (s.withWorkspace w) with
    | mk result s₁ =>
        rw [hproducts] at hpath
        have hafter := hfirst.trans hpath
        cases result with
        | error e =>
            have hclosed := (hafter.isSound hs).isClosed
            exact hafter.trans (.extend (Workspace.extends_release _ _) hclosed)
        | ok products =>
            refine hafter.trans (.act (hmay b _ hb products s₁ hproducts) (.branch ?_ ?_))
            · exact hafter.has htarget
            · exact fun child hchild => hids products s₁ hproducts child (by simpa using hchild)

end Builder

namespace Session

variable {may : Moment → Action → Prop} {inputs : List Input} {s : SessionState (Chronicle σ)}

/-- Each input of a new fragment becomes a fragment. -/
theorem path_mapM_addInput (may : Moment → Action → Prop) (hs : s.workspace.IsSound)
    (hinputs : ∀ id, .fragment id ∈ inputs → s.workspace.graph.Has id) :
    ∃ ids s', (inputs.mapM addInput).after s = (.ok ids, s') ∧ Path may s s' ∧
      ∀ id ∈ ids, s'.workspace.graph.Has id := by
  induction inputs generalizing s with
  | nil => exact ⟨[], s, rfl, .refl s, fun id hid => nomatch hid⟩
  | cons input inputs ih =>
      have hleaf : ∀ pattern : NativePattern,
          Path may s (s.withGraph (s.workspace.graph.addNative pattern).2) :=
        fun pattern => .extend (.of_graph (Graph.extends_add _ _))
          (Graph.places_addNative hs.isClosed pattern).isClosed
      obtain ⟨id, s₁, hfirst, hpath, hid⟩ : ∃ id s₁, (addInput input).after s = (.ok id, s₁) ∧
          Path may s s₁ ∧ s₁.workspace.graph.Has id := by
        cases input with
        | native pattern => exact ⟨_, _, rfl, hleaf pattern, Graph.has_add_self _ _⟩
        | fragment id => exact ⟨id, s, rfl, .refl s, hinputs id List.mem_cons_self⟩
        | literal value => exact ⟨_, _, rfl, hleaf _, Graph.has_add_self _ _⟩
      obtain ⟨ids, s₂, hrest, hpath', hids⟩ := ih (hpath.isSound hs) fun id hid =>
        hpath.has (hinputs id (List.mem_cons_of_mem _ hid))
      refine ⟨id :: ids, s₂, ?_, hpath.trans hpath', ?_⟩
      · rw [List.mapM_cons, after_bind, hfirst]
        dsimp only
        rw [after_bind, hrest]
        rfl
      · intro other hother
        rcases List.mem_cons.1 hother with rfl | hother
        · exact hpath'.has hid
        · exact hids other hother

theorem path_addFragment (hs : s.workspace.IsSound)
    (hinputs : ∀ id, .fragment id ∈ inputs → s.workspace.graph.Has id) :
    Path may s ((addFragment inputs).after s).2 := by
  unfold addFragment
  split
  · next pattern =>
      exact .extend (.of_graph (Graph.extends_add _ _))
        (Graph.places_addNative hs.isClosed pattern).isClosed
  · obtain ⟨ids, s', heq, hpath, hids⟩ := path_mapM_addInput may hs hinputs
    have hsound := hpath.isSound hs
    rw [after_bind, heq]
    exact hpath.trans (.extend (.of_graph (Graph.extends_addComposite _ _))
      (Graph.isClosed_addComposite hsound.isClosed hids))

end Session

namespace Obeys

variable {may : Moment → Action → Prop} {m : Session (Chronicle σ) α}
variable {s : SessionState (Chronicle σ)}

/-- A program that obeys a rule only goes ways on which all actions are allowed.  What all additions
and allowed actions keep holds already when the calls are made that end in these actions. -/
theorem path_calledAt {P : Moment → Prop} (hm : Obeys may m s) (hs : s.workspace.IsSound)
    (hextend : ∀ p w, P p → p.workspace.IsSound → p.workspace.Extends w → w.graph.IsClosed →
      P ⟨w, p.given⟩)
    (hact : ∀ p a p', P p → p.workspace.IsSound → may p a ∧ a.CalledAt P → p.Acts a p' → P p')
    (hP : P (now s)) : Path (fun p a => may p a ∧ a.CalledAt P) s (m.after s).2 := by
  have hkeeps : ∀ {s s' : SessionState (Chronicle σ)}, s.workspace.IsSound → P (now s) →
      Path (fun p a => may p a ∧ a.CalledAt P) s s' → s'.workspace.IsSound ∧ P (now s') :=
    fun hs hP hpath => ⟨hpath.isSound hs, hpath.preserves hs hextend hact hP⟩
  induction hm with
  | pure a => exact .refl _
  | throw e => exact .refl _
  | bind _ _ hm hf =>
      refine (hm hs hP).bind fun a s' houtcome => ?_
      have hlater := hkeeps hs hP (hm hs hP)
      rw [houtcome] at hlater
      exact hf a s' houtcome hlater.1 hlater.2
  | attempt _ hm => exact hm hs hP
  | note => exact .of_move .note
  | remember f => exact .of_move (.remember _)
  | workspace => exact .refl _
  | create flags => exact .extend (Workspace.extends_addRegistry _) hs.isClosed
  | copy b => exact .extend (Workspace.extends_acquire _ _) hs.isClosed
  | discard b => exact .extend (Workspace.extends_release _ _) hs.isClosed
  | resolveValue hadmits _ hcalls =>
      refine (Builder.path_resolveValue hs hadmits fun make s' hmake hpath => ?_).1
      exact hcalls make s' hmake (hkeeps hs hP hpath).1 (hkeeps hs hP hpath).2
  | products hadmits _ hcalls =>
      refine (Builder.path_products hs hadmits fun make s' hmake hpath => ?_).1
      exact hcalls make s' hmake (hkeeps hs hP hpath).1 (hkeeps hs hP hpath).2
  | combine hadmits _ hmay hcalls =>
      refine Builder.path_combine hs hadmits (fun make s' hmake hpath => ?_) ?_
      · exact hcalls make s' hmake (hkeeps hs hP hpath).1 (hkeeps hs hP hpath).2
      · exact fun products s' hproducts => ⟨hmay products s' hproducts, trivial⟩
  | addLiteral hmay => exact Builder.path_addLiteral hs ⟨hmay, trivial⟩
  | register hadmits _ hmay hcalls =>
      refine Builder.path_register hs hadmits (fun hfree make s' hmake hpath => ?_) ?_
      · exact hcalls hfree make s' hmake (hkeeps hs hP hpath).1 (hkeeps hs hP hpath).2
      · exact fun id s' hfree hvalue hstill => ⟨hmay id s' hfree hvalue hstill, trivial⟩
  | skip hadmits _ hmay hcalls =>
      refine Builder.path_skip hs hadmits (fun make s' hmake hpath => ?_) ?_
      · exact hcalls make s' hmake (hkeeps hs hP hpath).1 (hkeeps hs hP hpath).2
      · exact fun target s' hvalue => ⟨hmay target s' hvalue, trivial⟩
  | addAlternative htarget hadmits _ hmay hcalls =>
      refine Builder.path_addAlternative hs htarget hadmits ?_ ?_
      · intro b s' hb make s'' hmake hpath
        exact hcalls b s' hb make s'' hmake (hkeeps hs hP hpath).1 (hkeeps hs hP hpath).2
      · exact fun b s' hb products s'' hproducts => ⟨hmay b s' hb products s'' hproducts, hP⟩
  | addFragment hinputs => exact Session.path_addFragment hs hinputs
  | restyle hf hmay => exact .act ⟨hmay, trivial⟩ (.restyle hf)

theorem path (hm : Obeys may m s) (hs : s.workspace.IsSound) : Path may s (m.after s).2 :=
  (hm.path_calledAt (P := fun _ => True) hs (fun _ _ _ _ _ _ => trivial)
    (fun _ _ _ _ _ _ _ => trivial) trivial).mono fun _ _ => And.left

/-- The workspace of a new builder is sound. -/
theorem isSound_create (flags : Option Flags) (memory : σ) :
    ((Builder.create flags).after (start memory)).2.workspace.IsSound := by
  have hobeys : Obeys (fun _ _ => True) (Builder.create flags) (start memory) := .create flags
  exact (hobeys.path Workspace.isSound_empty).isSound Workspace.isSound_empty

/-- Whatever all additions and allowed actions keep holds at all moments of a program that obeys the
rule from the beginning. -/
theorem forall_history {P : Moment → Prop} {memory : σ} (hm : Obeys may m (start memory))
    (hextend : ∀ p w, P p → p.workspace.IsSound → p.workspace.Extends w → w.graph.IsClosed →
      P ⟨w, p.given⟩)
    (hact : ∀ p a p', P p → p.workspace.IsSound → may p a ∧ a.CalledAt P → p.Acts a p' → P p')
    (hstart : P ⟨Workspace.empty, []⟩) :
    ∀ p ∈ history (m.after (start memory)).2, p.workspace.IsSound ∧ P p := by
  have hpath := hm.path_calledAt Workspace.isSound_empty hextend hact hstart
  refine hpath.forall_history Workspace.isSound_empty ?_ ?_ ?_
  · intro p w hp _ hextends hclosed
    exact ⟨hextends.isSound hp.1 hclosed, hextend p w hp.2 hp.1 hextends hclosed⟩
  · intro p a p' hp _ hmay hacts
    exact ⟨hacts.isSound hp.1, hact p a p' hp.2 hp.1 hmay hacts⟩
  · intro p hp
    rw [List.mem_singleton.1 hp]
    exact ⟨Workspace.isSound_empty, hstart⟩

/-- A program whose first part has been run. -/
theorem bind_of_eq {f : α → Session (Chronicle σ) β} (a : α) (hm : Obeys may m s)
    (ha : (m.after s).1 = .ok a) (hf : Obeys may (f a) (m.after s).2) : Obeys may (m >>= f) s := by
  refine hm.bind fun a' s' houtcome => ?_
  rw [houtcome] at ha hf
  obtain rfl := Except.ok.inj ha
  exact hf

/-! ## Settings -/

section

variable {id : FragmentId} (hmay : may (now s) (.restyle id))

include hmay

theorem setFlags (flags : Flags) : Obeys may (Session.setFlags id flags) s :=
  .restyle (fun n => ⟨n.modifiers, some flags, rfl⟩) hmay

theorem setQuantifier (quantifier : String) : Obeys may (Session.setQuantifier id quantifier) s :=
  .restyle (fun n => ⟨{ n.modifiers with quantifier := some quantifier }, n.flags, rfl⟩) hmay

theorem setOptional (optional : Bool) : Obeys may (Session.setOptional id optional) s :=
  .restyle (fun n => ⟨{ n.modifiers with optional := optional }, n.flags, rfl⟩) hmay

end

/-! ## Plain arguments -/

theorem leaf (pattern : NativePattern) : Obeys may (onGraph (·.addNative pattern)) s := by
  have hinputs : ∀ id, .fragment id ∈ [Input.native pattern] → s.workspace.graph.Has id := by simp
  exact .addFragment hinputs

section

variable {b : Builder} {v : Argument (Chronicle σ)} {args : List (Argument (Chronicle σ))}

/-- Plain functions do nothing that a rule could forbid. -/
theorem of_calls {make : Builder → Session (Chronicle σ) FragmentId}
    {s' : SessionState (Chronicle σ)} (h : b.Calls make s' args s)
    (hargs : ∀ v ∈ args, v.IsPlain) : Obeys may (make b) s' := by
  obtain ⟨pattern, hmake⟩ := h.exists_leaf hargs
  rw [hmake]
  exact .leaf pattern

theorem combine_plain (hb : s.workspace.HasRegistry b.registry) (hargs : ∀ v ∈ args, v.IsPlain)
    (hids : ∀ id, .fragment id ∈ args → s.workspace.graph.Has id)
    (hmay : ∀ products s', (b.products args).after s = (.ok products, s') →
      may (now s') (.make b.registry (.composite (products.filterMap id)))) :
    Obeys may (b.combine args) s :=
  .combine (.of_forall hb hargs hids) (fun _ _ hcalls => .of_calls hcalls hargs) hmay

theorem register_plain {c : NameClass} {name : String}
    (hb : s.workspace.HasRegistry b.registry) (hv : v.IsPlain)
    (hid : ∀ id, v = .fragment id → s.workspace.graph.Has id)
    (hmay : ∀ id s', (b.resolveValue v).after s = (.ok id, s') →
      may (now s') (.name b.registry c name id)) :
    Obeys may (Chronicle.register b c name v) s := by
  have hargs : ∀ w ∈ [v], w.IsPlain := by simpa using hv
  refine .register (fun _ => .of_forall hb hargs ?_) (fun _ _ _ hcalls => .of_calls hcalls hargs) ?_
  · intro id hmem
    exact hid id (List.mem_singleton.1 hmem).symm
  · exact fun id s' _ hvalue _ => hmay id s' hvalue

theorem skip_plain (hb : s.workspace.HasRegistry b.registry) (hv : v.IsPlain)
    (hid : ∀ id, v = .fragment id → s.workspace.graph.Has id)
    (hmay : ∀ target s', (b.resolveValue v).after s = (.ok target, s') →
      may (now s') (.skip b.registry target)) : Obeys may (b.skip v) s := by
  have hargs : ∀ w ∈ [v], w.IsPlain := by simpa using hv
  refine .skip (.of_forall hb hargs ?_) (fun _ _ hcalls => .of_calls hcalls hargs) hmay
  intro id hmem
  exact hid id (List.mem_singleton.1 hmem).symm

theorem addAlternative_plain {target : FragmentId} (htarget : s.workspace.graph.Has target)
    (hargs : ∀ v ∈ args, v.IsPlain)
    (hids : ∀ id, .fragment id ∈ args → s.workspace.graph.Has id)
    (hmay : ∀ b s', (builderFor target).after s = (.ok b, s') →
      ∀ products s'', (b.products args).after s' = (.ok products, s'') →
        may (now s'') (.branch (now s) target (products.filterMap id))) :
    Obeys may (Session.addAlternative target args) s := by
  obtain ⟨b, w, heq, hgraph, -, hregistry⟩ := exists_builderFor target s
  refine .addAlternative htarget ?_ (fun _ _ _ _ _ hcalls => .of_calls hcalls hargs) hmay
  intro b' s' hb
  rw [heq] at hb
  cases hb
  refine .of_forall hregistry hargs fun id hid => ?_
  rw [SessionState.workspace_withWorkspace, hgraph]
  exact hids id hid

end

/-! ## Calls made of others -/

theorem ofExcept (r : Except CompositionError α) : Obeys may (Session.ofExcept r) s := by
  cases r with
  | error e => exact .throw e
  | ok a => exact .pure a

theorem graph : Obeys may Session.graph s := .bind .workspace fun _ _ _ => .pure _

theorem names (b : Builder) : Obeys may b.names s := .bind .workspace fun _ _ _ => .pure _

section

variable {b : Builder} {args : List (Argument (Chronicle σ))}

theorem lookaround (h : Obeys may (b.combine args) s) (direction : Direction) (negated : Bool) :
    Obeys may (b.lookaround direction negated args) s :=
  h.bind fun _ _ _ => .bind .graph fun _ _ _ => .bind (.ofExcept _) fun _ _ _ => .pure _

theorem captureGroups (h : Obeys may (b.products args) s) : Obeys may (b.captureGroups args) s :=
  h.bind fun _ _ _ => .bind .graph fun _ _ _ => .bind (.ofExcept _) fun _ _ _ => .pure _

theorem compile (h : Obeys may (b.combine args) s) : Obeys may (b.compile args) s :=
  h.bind fun _ _ _ => .bind .graph fun _ _ _ => .ofExcept _

theorem source (h : Obeys may (b.combine args) s) : Obeys may (b.source args) s :=
  h.bind fun _ _ _ => .bind .graph fun _ _ _ => .ofExcept _

theorem toRegex {v : Argument (Chronicle σ)} (h : Obeys may (b.resolveValue v) s)
    (flags : Option Flags) : Obeys may (b.toRegex v flags) s :=
  h.bind fun _ _ _ => .bind .graph fun _ _ _ => .ofExcept _

end

theorem captureIn (b : Builder) (text : String) (groups : NameTable) (options : CaptureOptions) :
    Obeys may (b.captureIn text groups options) s :=
  .bind .graph fun _ _ _ => .ofExcept _

theorem capture (b : Builder) (text : String) (options : CaptureOptions) :
    Obeys may (b.capture text options) s :=
  .bind (.names b) fun _ _ _ => .captureIn b text _ options

end Obeys

end RegexComposition

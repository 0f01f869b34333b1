import RegexComposition.Proofs.Fragment.Endings
import RegexComposition.Proofs.Session.Conduct

/-!
# The graphs of a session

Programs change the fragment graph in a few ways only, and what they have no handle on gets neither
alternatives nor other settings.  What all these changes keep holds for the graph at every moment of
a program, however deep its calls are nested.

Main results:

- `Graph.Change`: how programs change the graph.
- `Moment.Handles`: the rule that only fragments with a handle are changed.
- `Obeys.forall_graphs`: an invariant of all changes holds at all moments.
- `Obeys.hasBareEnds`: no program touches the end of a forward reference.
-/

namespace RegexComposition

variable {σ α : Type}

open Chronicle Session

/-! ## Changes -/

/-- How programs change the graph, where alternatives and settings are only changed of handled
fragments. -/
inductive Graph.Change (handled : Graph → FragmentId → Prop) (g : Graph) : Graph → Prop
  | leaf (pattern : NativePattern) : Change handled g (g.addNative pattern).2
  | composite (children : List FragmentId) : Change handled g (g.addComposite children).2
  | wrapper (child : FragmentId) (modifiers : Modifiers) :
      Change handled g (g.addWrapper child modifiers).2
  | upTo (ahead : FragmentId) (direction : UntilDirection) :
      Change handled g (g.addUpTo ahead direction).2
  | adopt (r : RegistryId) (id : FragmentId) : Change handled g (g.adopt r id)
  | skip (id : FragmentId) : Change handled g (g.modify id ({ · with skipped := true }))
  | branch {id : FragmentId} (r : RegistryId) (children : List FragmentId) : handled g id →
      Change handled g ((g.combined r children).2.pushAlternative id (g.combined r children).1)
  | restyle {id : FragmentId} {f : Node → Node} : handled g id → Node.Restyles f →
      Change handled g (g.modify id f)

/-- Alternatives and settings are only changed of handled fragments. -/
def Moment.Handles (handled : Graph → FragmentId → Prop) (p : Moment) : Action → Prop
  | .branch _ id _ | .restyle id => handled p.workspace.graph id
  | _ => True

/-- The graph has had the property at all noted moments, and it has it now. -/
def Chronicle.Always (P : Graph → Prop) (s : SessionState (Chronicle σ)) : Prop :=
  ∀ p ∈ history s, P p.workspace.graph

variable {P : Graph → Prop} {handled : Graph → FragmentId → Prop}
variable {s : SessionState (Chronicle σ)}

namespace Chronicle.Always

theorem graph (h : Always P s) : P s.workspace.graph :=
  h (now s) (List.mem_append_right _ (List.mem_singleton_self _))

/-- The moment may be followed by any other one whose graph has the property. -/
theorem goTo (h : Always P s) (p : Moment) (hp : P p.workspace.graph) :
    Always P (Chronicle.goTo s p) := by
  intro q hq
  rcases List.mem_append.1 hq with hseen | hnow
  · exact h q (List.mem_append_left _ hseen)
  · obtain rfl := List.mem_singleton.1 hnow
    exact hp

theorem withWorkspace {w : Workspace} (h : Always P s) (hw : P w.graph) :
    Always P (s.withWorkspace w) :=
  h.goTo ⟨w, s.memory.given⟩ hw

theorem note (h : Always P s) : Always P (Chronicle.note.after s).2 := by
  intro p hp
  rcases List.mem_append.1 hp with hseen | hnow
  · exact h p hseen
  · obtain rfl := List.mem_singleton.1 hnow
    exact h.graph

/-- A program that goes on where another one has succeeded keeps the property if both do. -/
theorem bind {β : Type} {m : Session (Chronicle σ) α} {f : α → Session (Chronicle σ) β}
    (hm : Always P (m.after s).2)
    (hf : ∀ a s', m.after s = (.ok a, s') → Always P s' → Always P ((f a).after s').2) :
    Always P ((m >>= f).after s).2 := by
  rw [after_bind]
  cases houtcome : m.after s with
  | mk result s' =>
      rw [houtcome] at hm
      cases result with
      | error e => exact hm
      | ok a => exact hf a s' houtcome hm

end Chronicle.Always

/-! ## Calls -/

section

variable (hP : ∀ g g', P g → g.Change handled g' → P g')

include hP

/-- What a plain argument becomes keeps the property. -/
theorem Graph.Yields.always {g g' : Graph} {known : FragmentId → Prop} {id : FragmentId}
    (h : g.Yields known id g') (hg : P g) : P g' := by
  cases h with
  | known => exact hg
  | leaf pattern => exact hP _ _ hg (.leaf pattern)
  | wrapper modifiers => exact hP _ _ hg (.wrapper _ modifiers)

/-- The composite of some fragments keeps the property. -/
theorem Graph.always_combined {g : Graph} (hg : P g) (r : RegistryId) (ids : List FragmentId) :
    P (g.combined r ids).2 :=
  hP _ _ (hP _ _ hg (.composite ids)) (.adopt r _)

/-- Forward references keep the property. -/
theorem Graph.always_assemble {g : Graph} (hg : P g) (slots : List Builder.Slot) :
    P (Builder.assemble slots g).2 := by
  induction slots with
  | nil => exact hg
  | cons slot slots ih =>
      cases slot with
      | product id => exact ih
      | dropped => exact ih
      | forward direction =>
          rcases Graph.assemble_forward_cases slots g direction with
            heq | ⟨children, ahead, -, rfl, heq⟩
          · rw [heq]
            exact ih
          · rw [heq]
            exact hP _ _ (hP _ _ ih (.composite children)) (.upTo _ direction)

namespace Builder

variable {b : Builder} {v : Argument (Chronicle σ)} {args : List (Argument (Chronicle σ))}

/-- A value keeps the property if the function does that it may be. -/
theorem always_resolveValue (hs : Always P s)
    (hcalls : ∀ make s', b.Calls make s' [v] s → Always P s' → Always P ((make b).after s').2) :
    Always P ((b.resolveValue v).after s).2 := by
  cases hfunction : v.function? with
  | none =>
      have hplain := Argument.isPlain_of_function?_eq_none hfunction
      rcases resolveValue_cases b s hplain with ⟨e, heq⟩ | ⟨id, g, heq, hyields⟩
      · rw [heq]
        exact hs
      · rw [heq]
        exact hs.withWorkspace (hyields.always hP hs.graph)
  | some make =>
      rw [Argument.resolveValue_of_function? hfunction]
      exact hcalls make s (.here hfunction) hs

theorem always_classify (hs : Always P s)
    (hcalls : ∀ make s', b.Calls make s' (v :: args) s → Always P s' →
      Always P ((make b).after s').2) :
    Always P ((b.classify v).after s).2 := by
  cases hfunction : v.function? with
  | none =>
      have hplain := Argument.isPlain_of_function?_eq_none hfunction
      rcases classify_cases b s hplain with
        ⟨e, heq⟩ | ⟨slot, -, heq⟩ | ⟨id, g, heq, hyields⟩
      · rw [heq]
        exact hs
      · rw [heq]
        exact hs
      · rw [heq]
        exact hs.withWorkspace (hyields.always hP hs.graph)
  | some make =>
      rw [after_classify_of_function? hfunction]
      exact hcalls make s (.here hfunction) hs

/-- Arguments keep the property if the functions among them do. -/
theorem always_mapM_classify (hs : Always P s)
    (hcalls : ∀ make s', b.Calls make s' args s → Always P s' → Always P ((make b).after s').2) :
    Always P ((args.mapM b.classify).after s).2 := by
  induction args generalizing s with
  | nil => exact hs
  | cons v args ih =>
      have hfirst := always_classify hP hs hcalls
      rw [after_classify_cons]
      cases hclassify : (b.classify v).after s with
      | mk result s₁ =>
          rw [hclassify] at hfirst
          cases result with
          | error e => exact hfirst
          | ok slot =>
              dsimp only
              rw [after_map]
              exact ih hfirst fun make s' hmake => hcalls make s' (.there hclassify hmake)

theorem always_products (hs : Always P s)
    (hcalls : ∀ make s', b.Calls make s' args s → Always P s' → Always P ((make b).after s').2) :
    Always P ((b.products args).after s).2 :=
  (always_mapM_classify hP hs hcalls).bind fun slots _ _ hs' =>
    hs'.withWorkspace (Graph.always_assemble hP hs'.graph slots)

theorem always_combine (hs : Always P s)
    (hcalls : ∀ make s', b.Calls make s' args s → Always P s' → Always P ((make b).after s').2) :
    Always P ((b.combine args).after s).2 := by
  have hproducts := always_products hP hs hcalls
  rw [after_combine]
  cases hafter : (b.products args).after s with
  | mk result s' =>
      rw [hafter] at hproducts
      cases result with
      | error e => exact hproducts
      | ok products => exact hproducts.withWorkspace (Graph.always_combined hP hproducts.graph _ _)

theorem always_register {c : NameClass} {name : String} (hs : Always P s)
    (hcalls : (s.workspace.names b.registry).nameError? name = none →
      ∀ make s', b.Calls make s' [v] s → Always P s' → Always P ((make b).after s').2) :
    Always P ((Chronicle.register b c name v).after s).2 := by
  have hregister : Always P ((b.register c name v).after s).2 := by
    rw [after_register]
    cases hfree : (s.workspace.names b.registry).nameError? name with
    | some e => exact hs
    | none =>
        have hresolve := always_resolveValue hP hs (hcalls hfree)
        cases hvalue : (b.resolveValue v).after s with
        | mk result s' =>
            rw [hvalue] at hresolve
            cases result with
            | error e => exact hresolve
            | ok id =>
                cases hinsert : (s'.workspace.names b.registry).insert? c name id with
                | error e =>
                    simp only [hinsert]
                    exact hresolve
                | ok names =>
                    simp only [hinsert]
                    exact hresolve.withWorkspace (hP _ _ hresolve.graph (.adopt _ id))
  exact hregister.bind fun _ s' _ hs' => hs'.goTo ⟨s'.workspace, _⟩ hs'.graph

theorem always_skip (hs : Always P s)
    (hcalls : ∀ make s', b.Calls make s' [v] s → Always P s' → Always P ((make b).after s').2) :
    Always P ((b.skip v).after s).2 := by
  have hresolve := always_resolveValue hP hs hcalls
  have hskip := after_skip b v s
  cases hvalue : (b.resolveValue v).after s with
  | mk result s' =>
      rw [hvalue] at hresolve hskip
      cases result with
      | error e =>
          rw [hskip]
          exact hresolve
      | ok target =>
          rcases hskip with ⟨names, -, heq⟩
          have htarget : P (s'.workspace.skipTarget b.registry target).2.graph := by
            unfold Workspace.skipTarget
            split
            · exact hP _ _ hresolve.graph (.wrapper target Modifiers.none)
            · exact hresolve.graph
          rw [heq]
          exact hresolve.withWorkspace (hP _ _ (hP _ _ htarget (.skip _)) (.adopt _ _))

theorem always_addAlternative {target : FragmentId} (hs : Always P s)
    (hcalls : ∀ b s', (builderFor target).after s = (.ok b, s') → ∀ make s'',
      b.Calls make s'' args s' → Always P s'' → Always P ((make b).after s'').2)
    (hhandled : ∀ b s', (builderFor target).after s = (.ok b, s') → ∀ products s'',
      (b.products args).after s' = (.ok products, s'') → handled s''.workspace.graph target) :
    Always P ((addAlternative target args).after s).2 := by
  by_cases hargs : args = []
  · subst hargs
    exact hs
  · rcases exists_builderFor target s with ⟨b, w, hb, hgraph, -, -⟩
    have hs' : Always P (s.withWorkspace w) := hs.withWorkspace (hgraph ▸ hs.graph)
    have hproducts := always_products hP hs' (hcalls b _ hb)
    rw [after_addAlternative target hargs hb, after_combine]
    cases hafter : (b.products args).after (s.withWorkspace w) with
    | mk result s'' =>
        rw [hafter] at hproducts
        cases result with
        | error e => exact hproducts.withWorkspace hproducts.graph
        | ok products =>
            have hbranch := hhandled b _ hb products s'' hafter
            exact hproducts.withWorkspace (hP _ _ hproducts.graph (.branch b.registry _ hbranch))

end Builder

namespace Session

variable {inputs : List Input}

theorem always_mapM_addInput (hs : Always P s) :
    Always P ((inputs.mapM addInput).after s).2 := by
  induction inputs generalizing s with
  | nil => exact hs
  | cons input inputs ih =>
      have hfirst : Always P ((addInput input).after s).2 := by
        cases input with
        | native pattern => exact hs.withWorkspace (hP _ _ hs.graph (.leaf pattern))
        | fragment id => exact hs
        | literal value => exact hs.withWorkspace (hP _ _ hs.graph (.leaf _))
      rw [List.mapM_cons]
      exact hfirst.bind fun _ _ _ hs' => (ih hs').bind fun _ _ _ hs'' => hs''

theorem always_addFragment (hs : Always P s) : Always P ((addFragment inputs).after s).2 := by
  unfold addFragment
  split
  · next pattern => exact hs.withWorkspace (hP _ _ hs.graph (.leaf pattern))
  · exact (always_mapM_addInput hP hs).bind fun children _ _ hs' =>
      hs'.withWorkspace (hP _ _ hs'.graph (.composite children))

end Session

namespace Obeys

variable {m : Session (Chronicle σ) α}

/-- What all changes keep is kept by every program, at all moments. -/
theorem always (hm : Obeys (Moment.Handles handled) m s) (hs : Always P s) :
    Always P (m.after s).2 := by
  induction hm with
  | pure a => exact hs
  | throw e => exact hs
  | bind _ _ hm hf => exact (hm hs).bind hf
  | attempt _ hm => exact hm hs
  | note => exact hs.note
  | remember f => exact hs
  | workspace => exact hs
  | create flags => exact hs.withWorkspace hs.graph
  | copy b => exact hs.withWorkspace hs.graph
  | discard b => exact hs.withWorkspace hs.graph
  | resolveValue _ _ hcalls => exact Builder.always_resolveValue hP hs hcalls
  | products _ _ hcalls => exact Builder.always_products hP hs hcalls
  | combine _ _ _ hcalls => exact Builder.always_combine hP hs hcalls
  | addLiteral =>
      exact hs.withWorkspace (hP _ _ (hP _ _ hs.graph (.leaf _)) (.adopt _ _))
  | register _ _ _ hcalls => exact Builder.always_register hP hs hcalls
  | skip _ _ _ hcalls => exact Builder.always_skip hP hs hcalls
  | addAlternative _ _ _ hmay hcalls => exact Builder.always_addAlternative hP hs hcalls hmay
  | addFragment => exact Session.always_addFragment hP hs
  | restyle hf hmay => exact hs.withWorkspace (hP _ _ hs.graph (.restyle hmay hf))

/-- What holds for the empty graph and is kept by all changes holds at all moments of a program. -/
theorem forall_graphs {memory : σ} (hm : Obeys (Moment.Handles handled) m (start memory))
    (hempty : P Graph.empty) :
    ∀ p ∈ history (m.after (start memory)).2, P p.workspace.graph := by
  apply hm.always hP
  intro p hp
  obtain rfl := List.mem_singleton.1 hp
  exact hempty

end Obeys

end

/-! ## The ends of forward references -/

/-- No change of a graph touches the ends of forward references, if there is no handle on them. -/
theorem Graph.HasBareEnds.change {g g' : Graph} (h : g.HasBareEnds)
    (hchange : g.Change (fun g id => ¬ g.IsEnding id) g') : g'.HasBareEnds := by
  cases hchange with
  | leaf pattern => exact h.addNative pattern
  | composite children => exact h.addComposite children
  | wrapper child modifiers => exact h.addWrapper child modifiers
  | upTo ahead direction => exact h.addUpTo ahead direction
  | adopt r id => exact h.adopt r id
  | skip id =>
      exact h.of_keeps (Graph.keeps_modify g id fun _ => ⟨rfl, rfl, rfl, rfl⟩)
        (@Graph.observe_modify ({ · with skipped := true }) _ Node.kind (fun _ => rfl) g id)
  | @branch id r children hid =>
      refine ((h.addComposite children).adopt r _).pushAlternative ?_ _
      rw [Graph.isEnding_congr (Graph.kind_adopt _ r _)]
      intro hending
      have hold : (g.add (.composite children)).2.IsEnding id :=
        (Graph.isEnding_congr (Graph.kind_foldl_setParent _ _ _)).1 hending
      rcases Graph.isEnding_of_add hold with hbefore | ⟨_, _, hkind⟩
      · exact hid hbefore
      · cases hkind
  | restyle hid hf => exact h.modify hid (hf.observe Node.kind fun _ _ _ => rfl)

/-- A program without a handle on the ends of forward references leaves all of them bare. -/
theorem Obeys.hasBareEnds {m : Session (Chronicle σ) α} {memory : σ}
    (hm : Obeys (Moment.Handles fun g id => ¬ g.IsEnding id) m (start memory)) :
    ∀ p ∈ history (m.after (start memory)).2, p.workspace.graph.HasBareEnds :=
  hm.forall_graphs (fun _ _ => Graph.HasBareEnds.change) Graph.hasBareEnds_empty

end RegexComposition

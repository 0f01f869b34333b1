import RegexComposition.Proofs.Fragment.Leaf
import RegexComposition.Proofs.Session.Slots

/-!
# Resolving arguments in order

What an argument of a combination is resolved into depends on nothing but the state that the
arguments before it have left.  Here this is said by rules, one for each way in which an argument
can be resolved or refused; the arguments of a list are resolved one after the other until one is
refused.

Main results:

- `SessionState.Spares`: nothing that was there before has been changed.
- `Builder.Resolves`, `Builder.Refuses`: the rules.
- `Builder.classify_eq_ok_iff`, `Builder.classify_eq_error_iff`: arguments follow them.
- `Builder.mapM_classify_eq_ok_iff`, `Builder.mapM_classify_eq_error_iff`: so do lists of arguments.
- `Builder.LooksUp`: only leaves and nodes around registered fragments have been added.
- `Builder.ResolvesAll.exists_runs`: besides that, nothing happens but that the functions are run.
-/

namespace RegexComposition

variable {σ : Type}

/-! ## Changes -/

/-- What is remembered, the names in all registries and all fragments are as before, except that
fragments may have been put into new ones. -/
structure SessionState.Spares (s s' : SessionState σ) : Prop where
  memory : s'.memory = s.memory
  workspace : s.workspace.Extends s'.workspace

namespace SessionState.Spares

variable {s s' s'' : SessionState σ}

theorem refl (s : SessionState σ) : s.Spares s where
  memory := rfl
  workspace := .refl _

theorem trans (h : s.Spares s') (h' : s'.Spares s'') : s.Spares s'' where
  memory := h'.memory.trans h.memory
  workspace := h.workspace.trans h'.workspace

theorem of_extends {w : Workspace} (h : s.workspace.Extends w) : s.Spares (s.withWorkspace w) where
  memory := rfl
  workspace := h

end SessionState.Spares

/-! ## Rules for single arguments -/

/-- The pattern of an argument that becomes a leaf of its own. -/
def Argument.leaf? : Argument σ → Option NativePattern
  | .native pattern => some pattern
  | .literal value => some (.ofSource value.source)
  | .upTo _ pattern => pattern
  | .fragment _ | .name _ | .textFunction _ | .function _ => none

namespace SessionState

/-- A new leaf, and the state with it. -/
def leaf (s : SessionState σ) (pattern : NativePattern) : FragmentId × SessionState σ :=
  ((s.workspace.graph.addNative pattern).1, s.withGraph (s.workspace.graph.addNative pattern).2)

/-- A new node around a fragment, and the state with it. -/
def wrapper (s : SessionState σ) (target : FragmentId) (modifiers : Modifiers) :
    FragmentId × SessionState σ :=
  ((s.workspace.graph.addWrapper target modifiers).1,
    s.withGraph (s.workspace.graph.addWrapper target modifiers).2)

end SessionState

namespace Builder

open Session

/-- How an argument of a list is resolved in a state, and what state that leaves.  Names are looked
up in the registry as it is then. -/
inductive Resolves (b : Builder) :
    Argument σ → SessionState σ → Slot → SessionState σ → Prop
  | function {v : Argument σ} {make : Builder → Session σ FragmentId} {id : FragmentId}
      {s s' : SessionState σ} :
      v.function? = some make → (make b).after s = (.ok id, s') → Resolves b v s (.product id) s'
  | fragment (id : FragmentId) (s : SessionState σ) : Resolves b (.fragment id) s (.product id) s
  | leaf {v : Argument σ} {pattern : NativePattern} (s : SessionState σ) :
      v.leaf? = some pattern → Resolves b v s (.product (s.leaf pattern).1) (s.leaf pattern).2
  | forward (direction : UntilDirection) (s : SessionState σ) :
      Resolves b (.upTo direction none) s (.forward direction) s
  | registered {text : String} {resolution : Resolution} {s : SessionState σ} :
      (s.workspace.names b.registry).resolve? text = some resolution →
      resolution.modifiers = Modifiers.none →
        Resolves b (.name text) s (.product resolution.target) s
  | modified {text : String} {resolution : Resolution} {s : SessionState σ} :
      (s.workspace.names b.registry).resolve? text = some resolution →
      resolution.modifiers ≠ Modifiers.none →
        Resolves b (.name text) s
          (.product (s.wrapper resolution.target resolution.modifiers).1)
          (s.wrapper resolution.target resolution.modifiers).2
  | anchor {text source : String} {s : SessionState σ} :
      (s.workspace.names b.registry).resolve? text = none → anchor? text = some source →
        Resolves b (.name text) s (.product (s.leaf (.ofSource source)).1)
          (s.leaf (.ofSource source)).2
  | dropped {text : String} {s : SessionState σ} :
      (s.workspace.names b.registry).resolve? text = none → anchor? text = none →
      Suffix.split? text.toList = none → Resolves b (.name text) s .dropped s

/-- How an argument of a list is refused in a state, and what state that leaves. -/
inductive Refuses (b : Builder) :
    Argument σ → SessionState σ → CompositionError → SessionState σ → Prop
  | function {v : Argument σ} {make : Builder → Session σ FragmentId} {e : CompositionError}
      {s s' : SessionState σ} :
      v.function? = some make → (make b).after s = (.error e, s') → Refuses b v s e s'
  | unknown {text : String} {s : SessionState σ} :
      (s.workspace.names b.registry).resolve? text = none → anchor? text = none →
      Suffix.split? text.toList ≠ none → Refuses b (.name text) s (.notFound text) s

variable {b : Builder} {v : Argument σ} {args : List (Argument σ)}
variable {s s' t : SessionState σ} {slot : Slot} {slots : List Slot} {e : CompositionError}

/-- An argument is resolved or refused by the rules. -/
theorem classify_resolves_or_refuses (b : Builder) (v : Argument σ) (s : SessionState σ) :
    (∃ slot s', (b.classify v).after s = (.ok slot, s') ∧ b.Resolves v s slot s') ∨
      ∃ e s', (b.classify v).after s = (.error e, s') ∧ b.Refuses v s e s' := by
  have hfunction : ∀ make, v.function? = some make →
      (∃ slot s', (b.classify v).after s = (.ok slot, s') ∧ b.Resolves v s slot s') ∨
        ∃ e s', (b.classify v).after s = (.error e, s') ∧ b.Refuses v s e s' := by
    intro make hv
    rw [after_classify_of_function? hv]
    cases hmake : (make b).after s with
    | mk result s' =>
        cases result with
        | ok id => exact .inl ⟨_, _, rfl, .function hv hmake⟩
        | error e => exact .inr ⟨_, _, rfl, .function hv hmake⟩
  cases v with
  | native | literal => exact .inl ⟨_, _, rfl, .leaf s rfl⟩
  | fragment id => exact .inl ⟨_, _, rfl, .fragment id s⟩
  | function | textFunction => exact hfunction _ rfl
  | upTo direction pattern =>
      cases pattern with
      | some pattern => exact .inl ⟨_, _, rfl, .leaf s rfl⟩
      | none => exact .inl ⟨_, _, rfl, .forward direction s⟩
  | name text =>
      simp only [classify, resolveReference, after_bind, after_workspace]
      -- A registered name comes first, then the anchors; only then a suffix makes an error of it.
      cases hresolve : (s.workspace.names b.registry).resolve? text with
      | some resolution =>
          refine .inl ?_
          by_cases hmodifiers : resolution.modifiers = Modifiers.none
          · refine ⟨_, _, ?_, .registered hresolve hmodifiers⟩
            simp [ofResolution, hmodifiers]
          · refine ⟨_, _, ?_, .modified hresolve hmodifiers⟩
            simp [ofResolution, hmodifiers, after_map]
            rfl
      | none =>
          cases hanchor : anchor? text with
          | some source => exact .inl ⟨_, _, rfl, .anchor hresolve hanchor⟩
          | none =>
              cases hsuffix : Suffix.split? text.toList with
              | some split =>
                  exact .inr ⟨_, _, rfl, .unknown hresolve hanchor (by simp [hsuffix])⟩
              | none => exact .inl ⟨_, _, rfl, .dropped hresolve hanchor hsuffix⟩

/-- What can be resolved by the rules is. -/
theorem Resolves.after_classify (h : b.Resolves v s slot s') :
    (b.classify v).after s = (.ok slot, s') := by
  cases h with
  | function hv hmake =>
      rw [after_classify_of_function? hv, hmake]
      rfl
  | fragment id s => rfl
  | leaf s hleaf =>
      cases v with
      | native | literal =>
          cases hleaf
          rfl
      | upTo direction pattern =>
          obtain rfl := hleaf
          rfl
      | fragment | name | textFunction | function => cases hleaf
  | forward direction s => rfl
  | registered hresolve hmodifiers =>
      simp [classify, resolveReference, after_bind, hresolve, ofResolution, hmodifiers]
  | modified hresolve hmodifiers =>
      simp [classify, resolveReference, after_bind, hresolve, ofResolution, hmodifiers, after_map]
      exact ⟨rfl, rfl⟩
  | anchor hresolve hanchor =>
      simp [classify, resolveReference, after_bind, hresolve, hanchor, addSource, after_map]
      exact ⟨rfl, rfl⟩
  | dropped hresolve hanchor hsuffix =>
      simp [classify, resolveReference, after_bind, hresolve, hanchor, hsuffix]

/-- What is refused by the rules is. -/
theorem Refuses.after_classify (h : b.Refuses v s e s') :
    (b.classify v).after s = (.error e, s') := by
  cases h with
  | function hv hmake =>
      rw [after_classify_of_function? hv, hmake]
      rfl
  | unknown hresolve hanchor hsuffix =>
      have hsome := Option.isSome_iff_ne_none.2 hsuffix
      simp only [classify, resolveReference, after_bind, after_workspace, hresolve, hanchor, hsome]
      rfl

theorem classify_eq_ok_iff :
    (b.classify v).after s = (.ok slot, s') ↔ b.Resolves v s slot s' := by
  refine ⟨fun h => ?_, Resolves.after_classify⟩
  rcases classify_resolves_or_refuses b v s with ⟨slot, t, heq, hrule⟩ | ⟨e, t, heq, -⟩
  · rw [heq] at h
    cases h
    exact hrule
  · rw [heq] at h
    cases h

theorem classify_eq_error_iff :
    (b.classify v).after s = (.error e, s') ↔ b.Refuses v s e s' := by
  refine ⟨fun h => ?_, Refuses.after_classify⟩
  rcases classify_resolves_or_refuses b v s with ⟨slot, t, heq, -⟩ | ⟨e, t, heq, hrule⟩
  · rw [heq] at h
    cases h
  · rw [heq] at h
    cases h
    exact hrule

/-! ## Lists of arguments -/

/-- The arguments are resolved one after the other, each one in the state that was left before. -/
inductive ResolvesAll (b : Builder) :
    List (Argument σ) → SessionState σ → List Slot → SessionState σ → Prop
  | nil (s : SessionState σ) : ResolvesAll b [] s [] s
  | cons {v : Argument σ} {args : List (Argument σ)} {s s' t : SessionState σ} {slot : Slot}
      {slots : List Slot} :
      b.Resolves v s slot s' → ResolvesAll b args s' slots t →
        ResolvesAll b (v :: args) s (slot :: slots) t

theorem mapM_classify_eq_ok_iff :
    (args.mapM b.classify).after s = (.ok slots, t) ↔ b.ResolvesAll args s slots t := by
  constructor
  · intro h
    induction args generalizing s slots with
    | nil =>
        cases h
        exact .nil _
    | cons v args ih =>
        rcases exists_of_after_cons h with ⟨slot, later, s₁, hclassify, hlater, rfl⟩
        exact .cons (classify_eq_ok_iff.1 hclassify) (ih hlater)
  · intro h
    induction h with
    | nil s => rfl
    | cons hfirst _ ih => exact after_mapM_cons hfirst.after_classify ih

/-- A list of arguments is refused for the first argument that is. -/
theorem mapM_classify_eq_error_iff :
    (args.mapM b.classify).after s = (.error e, s') ↔ ∃ before v after slots t,
      args = before ++ v :: after ∧ b.ResolvesAll before s slots t ∧ b.Refuses v t e s' := by
  constructor
  · intro h
    induction args generalizing s with
    | nil => cases h
    | cons v args ih =>
        rw [after_classify_cons] at h
        rcases classify_resolves_or_refuses b v s with ⟨slot, s₁, heq, hrule⟩ | ⟨e', s₁, heq, hrule⟩
        · rw [heq] at h
          rcases ih (of_map_eq_error h) with ⟨before, w, after, slots, t, rfl, hbefore, hrefuses⟩
          exact ⟨v :: before, w, after, slot :: slots, t, rfl, .cons hrule hbefore, hrefuses⟩
        · rw [heq] at h
          cases h
          exact ⟨[], v, args, [], s, rfl, .nil s, hrule⟩
  · rintro ⟨before, v, after, slots, t, rfl, hbefore, hrefuses⟩
    have hslots := mapM_classify_eq_ok_iff.2 hbefore
    rw [List.mapM_append, after_bind, hslots]
    dsimp only
    rw [after_bind, after_classify_cons, hrefuses.after_classify]

/-! ## What is done -/

/-- All that has been done is that leaves and nodes around registered fragments have been added,
the latter with modifiers, which the composite of a combination does not have. -/
structure LooksUp (b : Builder) (s t : SessionState σ) : Prop extends s.Spares t where
  fresh : ∀ id, t.workspace.graph.Has id → s.workspace.graph.Has id ∨
    (∃ pattern, (t.workspace.graph.node id).kind = .native pattern) ∨
    ∃ target, (s.workspace.names b.registry).Registers target ∧
      (t.workspace.graph.node id).kind = .composite [target] ∧
      (t.workspace.graph.node id).modifiers ≠ Modifiers.none

namespace LooksUp

theorem refl (b : Builder) (s : SessionState σ) : b.LooksUp s s where
  toSpares := .refl s
  fresh := fun _ => .inl

theorem trans (h : b.LooksUp s s') (h' : b.LooksUp s' t) : b.LooksUp s t where
  toSpares := h.toSpares.trans h'.toSpares
  fresh := by
    intro id hid
    rcases h'.fresh id hid with hold | hleaf | ⟨target, htarget, hwrapper⟩
    · have hsame := h'.workspace.graph.keeps.node id hold
      rw [hsame.kind, hsame.modifiers]
      exact h.fresh id hold
    · exact .inr (.inl hleaf)
    · rw [h.workspace.names] at htarget
      exact .inr (.inr ⟨target, htarget, hwrapper⟩)

theorem leaf (b : Builder) (s : SessionState σ) (pattern : NativePattern) :
    b.LooksUp s (s.leaf pattern).2 where
  toSpares := .of_extends (.of_graph (Graph.extends_add _ _))
  fresh := by
    intro id hid
    by_cases hold : s.workspace.graph.Has id
    · exact .inl hold
    · rcases Graph.eq_or_not_has_add (.native pattern) hold with rfl | hnot
      · exact .inr (.inl ⟨pattern, congrArg Node.kind (Graph.node_add_self _ _)⟩)
      · exact absurd hid hnot

theorem wrapper {target : FragmentId} (htarget : (s.workspace.names b.registry).Registers target)
    {modifiers : Modifiers} (hmodifiers : modifiers ≠ Modifiers.none) :
    b.LooksUp s (s.wrapper target modifiers).2 where
  toSpares := .of_extends (.of_graph (Graph.extends_addWrapper _ _ _))
  fresh := by
    intro id hid
    by_cases hold : s.workspace.graph.Has id
    · exact .inl hold
    · have hhas : (s.workspace.graph.add (.composite [target])).2.Has id := by
        have hwrapper : (s.workspace.graph.addWrapper target modifiers).2.Has id := hid
        simpa [Graph.addWrapper, Graph.addComposite, Graph.setParent] using hwrapper
      rcases Graph.eq_or_not_has_add (.composite [target]) hold with rfl | hnot
      · have hwrapper := Graph.isWrapper_addWrapper s.workspace.graph target modifiers
        have hne := hwrapper.modifiers_eq.trans_ne hmodifiers
        exact .inr (.inr ⟨target, htarget, hwrapper.kind, hne⟩)
      · exact absurd hhas hnot

end LooksUp

/-- A plain argument is only looked up. -/
theorem Resolves.looksUp (h : b.Resolves v s slot s') (hv : v.IsPlain) : b.LooksUp s s' := by
  cases h with
  | function hfunction hmake =>
      obtain ⟨pattern, hleaf⟩ := hv.exists_leaf hfunction b
      rw [hleaf] at hmake
      cases hmake
      exact .leaf b s pattern
  | fragment | forward | registered | dropped => exact .refl b s
  | leaf s hleaf => exact .leaf b s _
  | anchor hresolve hanchor => exact .leaf b s _
  | modified hresolve hmodifiers =>
      exact .wrapper (Registry.registers_of_resolve? hresolve) hmodifiers

/-- So are plain arguments. -/
theorem ResolvesAll.looksUp (h : b.ResolvesAll args s slots t) (hargs : ∀ v ∈ args, v.IsPlain) :
    b.LooksUp s t := by
  induction h with
  | nil s => exact .refl b s
  | cons hfirst _ ih =>
      exact (hfirst.looksUp (hargs _ List.mem_cons_self)).trans
        (ih fun w hw => hargs w (List.mem_cons_of_mem _ hw))

/-- A plain argument is refused without a change. -/
theorem Refuses.eq_of_isPlain (h : b.Refuses v s e s') (hv : v.IsPlain) : s' = s := by
  cases h with
  | function hfunction hmake =>
      obtain ⟨pattern, hleaf⟩ := hv.exists_leaf hfunction b
      rw [hleaf] at hmake
      cases hmake
  | unknown => rfl

/-- An argument that is a function is resolved by running it. -/
theorem Resolves.exists_of_function? {make : Builder → Session σ FragmentId}
    (h : b.Resolves v s slot s') (hv : v.function? = some make) :
    ∃ id, (make b).after s = (.ok id, s') := by
  have hclassify := h.after_classify
  rw [Argument.classify_of_function? hv] at hclassify
  rcases exists_of_after_map hclassify with ⟨id, hmake, -⟩
  exact ⟨id, hmake⟩

/-- The functions have been run one after the other, each of them once and in the state that was
left before.  Apart from that, fragments have been looked up before each run, but not after the last
one. -/
inductive Runs (b : Builder) :
    List (Builder → Session σ FragmentId) → SessionState σ → SessionState σ → Prop
  | none (s : SessionState σ) : Runs b [] s s
  | run {make : Builder → Session σ FragmentId} {makes : List (Builder → Session σ FragmentId)}
      {s s₁ s₂ t : SessionState σ} {id : FragmentId} :
      b.LooksUp s s₁ → (make b).after s₁ = (.ok id, s₂) → Runs b makes s₂ t →
        Runs b (make :: makes) s t

/-- While arguments are resolved, their functions are run in order, and names are looked up in the
registry that the functions before them have left. -/
theorem ResolvesAll.exists_runs (h : b.ResolvesAll args s slots t) :
    ∃ u, b.Runs (args.filterMap Argument.function?) s u ∧ b.LooksUp u t := by
  induction h with
  | nil s => exact ⟨s, .none s, .refl b s⟩
  | @cons v args s s' t slot slots hfirst _ ih =>
      rcases ih with ⟨u, hruns, hlooksUp⟩
      cases hfunction : v.function? with
      | some make =>
          obtain ⟨id, hmake⟩ := hfirst.exists_of_function? hfunction
          rw [List.filterMap_cons_some hfunction]
          exact ⟨u, .run (.refl b s) hmake hruns, hlooksUp⟩
      | none =>
          have hfirst := hfirst.looksUp (Argument.isPlain_of_function?_eq_none hfunction)
          rw [List.filterMap_cons_none hfunction]
          generalize args.filterMap Argument.function? = makes at hruns
          cases hruns with
          | none => exact ⟨s, .none s, hfirst.trans hlooksUp⟩
          | run hbefore hmake hrest => exact ⟨u, .run (hfirst.trans hbefore) hmake hrest, hlooksUp⟩

end Builder

end RegexComposition

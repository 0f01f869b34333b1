import RegexComposition.Proofs.Session.Failure

/-!
# The order of resolving

Arguments are resolved strictly from left to right.  A failing call reports the first argument that
is refused, and the functions behind that argument have not been run.  To count the runs of
functions, each argument gets a label, and a function writes its label into a log when it is run.

Main results:

- `Session.logged`, `Argument.logged`: computations and arguments that keep a log.
- `Builder.ResolvesAll.logged`: the log has the labels of the functions, each of them once.
- `Builder.FailsWith`: all calls with a list of arguments fail in the same way.
- `Builder.products_in_order`: what a list of arguments is resolved into, or for which argument it
  is refused, and which functions have been run.
-/

namespace RegexComposition

variable {σ τ α β : Type}

/-! ## Logs -/

/-- The state with a log beside what is remembered. -/
def SessionState.logged (s : SessionState σ) (log : List τ) : SessionState (σ × List τ) :=
  ⟨s.workspace, (s.memory, log)⟩

namespace Session

/-- The computation, which first writes a label into the log. -/
def logged (label : τ) (m : Session σ α) : Session (σ × List τ) α :=
  ExceptT.mk do
    let s ← get
    let outcome := m.after ⟨s.workspace, s.memory.1⟩
    set (outcome.2.logged (s.memory.2 ++ [label]))
    return outcome.1

theorem after_logged (label : τ) (m : Session σ α) (s : SessionState σ) (log : List τ) :
    (m.logged label).after (s.logged log) =
      ((m.after s).1, (m.after s).2.logged (log ++ [label])) := rfl

/-- What follows a failing computation is not done. -/
theorem after_bind_of_error {m : Session σ α} {s s' : SessionState σ} {e : CompositionError}
    (h : m.after s = (.error e, s')) (f : α → Session σ β) :
    (m >>= f).after s = (.error e, s') := by
  rw [after_bind, h]

end Session

namespace Argument

/-- The argument, which writes its label into the log if it is a function and is run. -/
def logged (label : τ) : Argument σ → Argument (σ × List τ)
  | .native pattern => .native pattern
  | .fragment id => .fragment id
  | .name text => .name text
  | .textFunction text => .textFunction (text.logged label)
  | .function make => .function fun b => (make b).logged label
  | .literal value => .literal value
  | .upTo direction pattern => .upTo direction pattern

/-- The labels of the functions in a list of arguments. -/
def functionLabels (labelled : List (τ × Argument σ)) : List τ :=
  labelled.filterMap fun a => a.2.function?.map fun _ => a.1

theorem leaf?_logged (label : τ) (v : Argument σ) : (v.logged label).leaf? = v.leaf? := by
  cases v <;> rfl

/-- What makes the fragment of a function writes the label first. -/
theorem exists_function?_logged (label : τ) {v : Argument σ} {make : Builder → Session σ FragmentId}
    (hv : v.function? = some make) : ∃ make', (v.logged label).function? = some make' ∧
      ∀ b s log, (make' b).after (s.logged log) =
        (((make b).after s).1, ((make b).after s).2.logged (log ++ [label])) := by
  cases v with
  | function =>
      obtain rfl := Option.some.inj hv
      exact ⟨_, rfl, fun b s log => rfl⟩
  | textFunction text =>
      obtain rfl := Option.some.inj hv
      refine ⟨_, rfl, fun b s log => ?_⟩
      simp only [Session.after_bind, Session.after_logged]
      generalize text.after s = outcome
      rcases outcome with ⟨result, s'⟩
      cases result <;> rfl
  | _ => cases hv

theorem functionLabels_cons (label : τ) (v : Argument σ) (labelled : List (τ × Argument σ)) :
    functionLabels ((label, v) :: labelled) =
      functionLabels [(label, v)] ++ functionLabels labelled :=
  List.filterMap_append (l := [(label, v)])

theorem functionLabels_of_none (label : τ) {v : Argument σ} (hv : v.function? = none) :
    functionLabels [(label, v)] = [] := by
  simp [functionLabels, hv]

theorem functionLabels_of_some (label : τ) {v : Argument σ} {make : Builder → Session σ FragmentId}
    (hv : v.function? = some make) : functionLabels [(label, v)] = [label] := by
  simp [functionLabels, hv]

theorem functionLabels_append (first later : List (τ × Argument σ)) :
    functionLabels (first ++ later) = functionLabels first ++ functionLabels later :=
  List.filterMap_append

end Argument

namespace Builder

open Session Argument

variable {b : Builder} {v : Argument σ} {args : List (Argument σ)}
variable {labelled before after : List (τ × Argument σ)} {label : τ}
variable {s s' t : SessionState σ} {slot : Slot} {slots : List Slot} {e : CompositionError}

/-- Resolving an argument writes a label exactly if it is a function. -/
theorem Resolves.logged (h : b.Resolves v s slot s') (label : τ) (log : List τ) :
    b.Resolves (v.logged label) (s.logged log) slot
      (s'.logged (log ++ functionLabels [(label, v)])) := by
  cases h with
  | function hfunction hmake =>
      rcases exists_function?_logged label hfunction with ⟨make', hfunction', hlogged⟩
      rw [functionLabels_of_some label hfunction]
      exact .function hfunction' (by rw [hlogged, hmake])
  | fragment id s =>
      rw [functionLabels_of_none label rfl, List.append_nil]
      exact .fragment id _
  | @leaf v pattern s hleaf =>
      have hv : v.function? = none := by
        cases v with
        | function | textFunction => cases hleaf
        | _ => rfl
      rw [functionLabels_of_none label hv, List.append_nil]
      exact .leaf (s.logged log) ((leaf?_logged label v).trans hleaf)
  | forward direction s =>
      rw [functionLabels_of_none label rfl, List.append_nil]
      exact .forward direction _
  | registered hresolve hmodifiers =>
      rw [functionLabels_of_none label rfl, List.append_nil]
      exact .registered hresolve hmodifiers
  | modified hresolve hmodifiers =>
      rw [functionLabels_of_none label rfl, List.append_nil]
      exact .modified hresolve hmodifiers
  | anchor hresolve hanchor =>
      rw [functionLabels_of_none label rfl, List.append_nil]
      exact .anchor hresolve hanchor
  | dropped hresolve hanchor hsuffix =>
      rw [functionLabels_of_none label rfl, List.append_nil]
      exact .dropped hresolve hanchor hsuffix

/-- A function that is refused has been run, too. -/
theorem Refuses.logged (h : b.Refuses v s e s') (label : τ) (log : List τ) :
    b.Refuses (v.logged label) (s.logged log) e
      (s'.logged (log ++ functionLabels [(label, v)])) := by
  cases h with
  | function hfunction hmake =>
      rcases exists_function?_logged label hfunction with ⟨make', hfunction', hlogged⟩
      rw [functionLabels_of_some label hfunction]
      exact .function hfunction' (by rw [hlogged, hmake])
  | unknown hresolve hanchor hsuffix =>
      rw [functionLabels_of_none label rfl, List.append_nil]
      exact .unknown hresolve hanchor hsuffix

/-- When arguments are resolved, all functions among them write their labels, in order. -/
theorem ResolvesAll.logged (h : b.ResolvesAll (labelled.map (·.2)) s slots t) (log : List τ) :
    b.ResolvesAll (labelled.map fun a => a.2.logged a.1) (s.logged log) slots
      (t.logged (log ++ functionLabels labelled)) := by
  induction labelled generalizing s slots log with
  | nil =>
      cases h
      rw [functionLabels, List.filterMap_nil, List.append_nil]
      exact .nil _
  | cons a labelled ih =>
      rcases a with ⟨label, v⟩
      cases h with
      | cons hfirst hrest =>
          rw [functionLabels_cons, ← List.append_assoc]
          exact .cons (hfirst.logged label log) (ih hrest _)

/-! ## Results -/

theorem products_eq_ok_iff {products : List (Option FragmentId)} :
    (b.products args).after s = (.ok products, s') ↔ ∃ slots t, b.ResolvesAll args s slots t ∧
      products = (assemble slots t.workspace.graph).1 ∧
      s' = t.withGraph (assemble slots t.workspace.graph).2 := by
  rw [after_products]
  constructor
  · intro h
    cases hslots : (args.mapM b.classify).after s with
    | mk result t =>
        rw [hslots] at h
        cases result with
        | error e => cases h
        | ok slots =>
            cases h
            exact ⟨slots, t, mapM_classify_eq_ok_iff.1 hslots, rfl, rfl⟩
  · rintro ⟨slots, t, hslots, rfl, rfl⟩
    rw [mapM_classify_eq_ok_iff.2 hslots]

/-- Nothing is assembled unless all arguments have been resolved. -/
theorem products_eq_error_iff :
    (b.products args).after s = (.error e, s') ↔ ∃ before v after slots t,
      args = before ++ v :: after ∧ b.ResolvesAll before s slots t ∧ b.Refuses v t e s' := by
  rw [after_products, ← mapM_classify_eq_error_iff]
  generalize (args.mapM b.classify).after s = outcome
  rcases outcome with ⟨result, t⟩
  cases result <;> simp

/-- Plain arguments that are refused have only been looked up. -/
theorem looksUp_of_products_eq_error (h : (b.products args).after s = (.error e, s'))
    (hargs : ∀ v ∈ args, v.IsPlain) : b.LooksUp s s' := by
  rcases products_eq_error_iff.1 h with ⟨before, v, after, slots, t, rfl, hbefore, hrefuses⟩
  rw [hrefuses.eq_of_isPlain (hargs v (List.mem_append_right _ List.mem_cons_self))]
  exact hbefore.looksUp fun w hw => hargs w (List.mem_append_left _ hw)

/-- All calls of the builder that take the list of arguments fail with the error and leave the
state. -/
structure FailsWith (b : Builder) (args : List (Argument σ)) (s : SessionState σ)
    (e : CompositionError) (s' : SessionState σ) : Prop where
  combine : (b.combine args).after s = (.error e, s')
  compile : (b.compile args).after s = (.error e, s')
  source : (b.source args).after s = (.error e, s')
  lookaround : ∀ direction negated, (b.lookaround direction negated args).after s = (.error e, s')
  captureGroups : (b.captureGroups args).after s = (.error e, s')

theorem failsWith_of_products (h : (b.products args).after s = (.error e, s')) :
    b.FailsWith args s e s' := by
  have hcombine : (b.combine args).after s = (.error e, s') := after_bind_of_error h _
  exact {
    combine := hcombine
    compile := after_bind_of_error hcombine _
    source := after_bind_of_error hcombine _
    lookaround := fun _ _ => after_bind_of_error hcombine _
    captureGroups := after_bind_of_error h _ }

/-- An alternative is refused for the first of its arguments that is. -/
theorem addAlternative_of_products {id : FragmentId} (hb : (builderFor id).after s = (.ok b, t))
    (h : (b.products args).after t = (.error e, s')) : (addAlternative id args).after s =
      (.error e, s'.withWorkspace (s'.workspace.release b.registry)) := by
  have hargs : args ≠ [] := by
    rintro rfl
    cases h
  rw [after_addAlternative id hargs hb, (failsWith_of_products h).combine]

/-- The fragments of resolved arguments do not depend on the log. -/
theorem products_logged {products : List (Option FragmentId)}
    (h : (b.products (labelled.map (·.2))).after s = (.ok products, s')) (log : List τ) :
    (b.products (labelled.map fun a => a.2.logged a.1)).after (s.logged log) =
      (.ok products, s'.logged (log ++ functionLabels labelled)) := by
  rcases products_eq_ok_iff.1 h with ⟨slots, t, hslots, rfl, rfl⟩
  exact products_eq_ok_iff.2 ⟨slots, _, hslots.logged log, rfl, rfl⟩

/-- Arguments are refused with the labels of the functions up to the refused one in the log. -/
theorem products_logged_of_refuses (hbefore : b.ResolvesAll (before.map (·.2)) s slots t)
    (hrefuses : b.Refuses v t e s') (log : List τ) :
    (b.products ((before ++ (label, v) :: after).map fun a => a.2.logged a.1)).after
      (s.logged log) =
      (.error e, s'.logged (log ++ functionLabels (before ++ [(label, v)]))) := by
  have hrefuses' := hrefuses.logged label (log ++ functionLabels before)
  rw [List.append_assoc, ← functionLabels_append] at hrefuses'
  rw [List.map_append, List.map_cons]
  exact products_eq_error_iff.2 ⟨_, _, _, slots, _, rfl, hbefore.logged log, hrefuses'⟩

/-- Arguments are resolved from left to right, each one in the state that the arguments before it
have left.  If all of them are resolved, they are assembled afterwards.  Otherwise the first one
that is refused in its state decides about the error and the state of every call with these
arguments, also of an added alternative.

The functions before an argument have been run in order, and besides that fragments have only been
looked up, so that a name is looked up in the registry that those functions have left.  A refused
list of plain arguments has only been looked up.  A log that functions write their labels into has
the label of every function up to the refused argument, or in the list, exactly once and in order,
and no other label. -/
theorem products_in_order (b : Builder) (labelled : List (τ × Argument σ)) (s : SessionState σ)
    (log : List τ) :
    let args := labelled.map (·.2)
    let loggedArgs := labelled.map fun a => a.2.logged a.1
    (∀ products s', (b.products args).after s = (.ok products, s') ↔
      ∃ slots t, b.ResolvesAll args s slots t ∧
        products = (assemble slots t.workspace.graph).1 ∧
        s' = t.withGraph (assemble slots t.workspace.graph).2) ∧
    (∀ e s', (b.products args).after s = (.error e, s') ↔
      ∃ before v after slots t, args = before ++ v :: after ∧
        b.ResolvesAll before s slots t ∧ b.Refuses v t e s') ∧
    (∀ e s', (b.products args).after s = (.error e, s') → b.FailsWith args s e s') ∧
    (∀ id b' t e s', (builderFor id).after s = (.ok b', t) →
      (b'.products args).after t = (.error e, s') →
      (addAlternative id args).after s =
        (.error e, s'.withWorkspace (s'.workspace.release b'.registry))) ∧
    (∀ before slots t, b.ResolvesAll before s slots t →
      ∃ u, b.Runs (before.filterMap function?) s u ∧ b.LooksUp u t ∧
        t.workspace.names b.registry = u.workspace.names b.registry) ∧
    (∀ e s', (b.products args).after s = (.error e, s') →
      (∀ v ∈ args, v.IsPlain) → b.LooksUp s s') ∧
    (∀ products s', (b.products args).after s = (.ok products, s') →
      (b.products loggedArgs).after (s.logged log) =
        (.ok products, s'.logged (log ++ functionLabels labelled))) ∧
    (∀ e s', (b.products args).after s = (.error e, s') →
      ∃ before label v after slots t, labelled = before ++ (label, v) :: after ∧
        b.ResolvesAll (before.map (·.2)) s slots t ∧ b.Refuses v t e s' ∧
        (b.products loggedArgs).after (s.logged log) =
          (.error e, s'.logged (log ++ functionLabels (before ++ [(label, v)])))) := by
  intro args loggedArgs
  refine ⟨fun products s' => products_eq_ok_iff, fun e s' => products_eq_error_iff,
    fun e s' => failsWith_of_products, fun id b' t e s' => addAlternative_of_products, ?_,
    fun e s' => looksUp_of_products_eq_error, fun products s' h => products_logged h log, ?_⟩
  · intro before slots t hbefore
    rcases hbefore.exists_runs with ⟨u, hruns, hlooksUp⟩
    exact ⟨u, hruns, hlooksUp, hlooksUp.workspace.names b.registry⟩
  · intro e s' h
    rcases products_eq_error_iff.1 h with ⟨before, v, after, slots, t, hsplit, hbefore, hrefuses⟩
    rcases List.map_eq_append_iff.1 hsplit with ⟨before, rest, rfl, rfl, hrest⟩
    rcases List.map_eq_cons_iff.1 hrest with ⟨⟨label, v⟩, after, rfl, rfl, rfl⟩
    exact ⟨before, label, v, after, slots, t, rfl, hbefore, hrefuses,
      products_logged_of_refuses hbefore hrefuses log⟩

/-- A name in front of a function that registers it, the name behind it, an unknown name with a
suffix, and the function again: the unknown name is refused when the function has been run once. -/
theorem products_in_order_makeDigit :
    let b : Builder := ⟨⟨0⟩, none⟩
    let labelled : List (Nat × Argument Unit) := [(0, .name "digit"), (1, .function makeDigit),
      (2, .name "digit"), (3, .name "letter+"), (4, .function makeDigit)]
    let args := labelled.map (·.2)
    let s' := ((b.products args).after untouched).2
    (((args.take 3).mapM b.classify).after untouched).1 =
        .ok [.dropped, .product ⟨1⟩, .product ⟨1⟩] ∧
      b.FailsWith args untouched (.notFound "letter+") s' ∧
      (b.products (labelled.map fun a => a.2.logged a.1)).after (untouched.logged []) =
        (.error (.notFound "letter+"), s'.logged [1]) := by
  intro b labelled args s'
  have hfail : (b.products args).after untouched = (.error (.notFound "letter+"), s') :=
    Prod.ext (by decide +kernel) rfl
  have hlabels : ((b.products (labelled.map fun a => a.2.logged a.1)).after
      (untouched.logged [])).2.memory.2 = [1] := by decide +kernel
  obtain ⟨-, -, hcalls, -, -, -, -, hlog⟩ := products_in_order b labelled untouched []
  rcases hlog _ _ hfail with ⟨before, label, v, after, slots, t, -, -, -, hlogged⟩
  rw [hlogged] at hlabels ⊢
  have hone : functionLabels (before ++ [(label, v)]) = [1] := hlabels
  rw [List.nil_append, hone]
  exact ⟨by decide +kernel, hcalls _ _ hfail, rfl⟩

end Builder

end RegexComposition

import RegexComposition.Proofs.Fragment.Additions
import RegexComposition.Proofs.Session.Calls

/-!
# The fragments of a list of arguments

The arguments of a combination are resolved from left to right and assembled from right to left.
In the end there is one fragment for each argument, or none.

Main results:

- `Builder.exists_slots_of_append`: arguments are resolved one part of the list after the other.
- `Builder.exists_assemble_append`: they are assembled in the same places.
- `Builder.exists_assemble_forward`: what a forward reference is assembled into.
- `Builder.Becomes`: what becomes of an argument among others.
- `Builder.products_shape`: this is what becomes of each argument of a combination.
-/

namespace RegexComposition

/-- A composite that is adopted has its children. -/
theorem Graph.isPlain_combined (g : Graph) (r : RegistryId) (ids : List FragmentId) :
    (g.combined r ids).2.IsPlain (g.combined r ids).1 (.composite ids) :=
  (isPlain_addComposite g ids).of_keeps (keeps_adopt _ r _)

theorem Graph.keeps_combined (g : Graph) (r : RegistryId) (ids : List FragmentId) :
    g.Keeps (g.combined r ids).2 :=
  (keeps_addComposite g ids).trans (keeps_adopt _ r _)

namespace Builder

open Session

variable {σ : Type} {b : Builder} {v : Argument σ} {args pre post : List (Argument σ)}
variable {s s' t : SessionState σ} {g g' : Graph} {slot : Slot} {slots first later : List Slot}

/-! ## Resolving -/

/-- If the arguments of a list are resolved, the first one is, and then the others are. -/
theorem exists_of_after_cons (hrun : ((v :: args).mapM b.classify).after s = (.ok slots, t)) :
    ∃ slot later s₁, (b.classify v).after s = (.ok slot, s₁) ∧
      (args.mapM b.classify).after s₁ = (.ok later, t) ∧ slots = slot :: later := by
  rw [List.mapM_cons] at hrun
  rcases exists_of_after_bind hrun with ⟨slot, s₁, hclassify, hrest⟩
  rcases exists_of_after_bind hrest with ⟨later, s₂, hlater, hpure⟩
  cases hpure
  exact ⟨slot, later, s₁, hclassify, hlater, rfl⟩

/-- The arguments in front of a position are resolved before those behind it. -/
theorem exists_slots_of_append
    (hslots : ((pre ++ post).mapM b.classify).after s = (.ok slots, s')) :
    ∃ first later s₁, (pre.mapM b.classify).after s = (.ok first, s₁) ∧
      (post.mapM b.classify).after s₁ = (.ok later, s') ∧ slots = first ++ later := by
  rw [List.mapM_append] at hslots
  rcases exists_of_after_bind hslots with ⟨first, s₁, hpre, hrest⟩
  rcases exists_of_after_bind hrest with ⟨later, s₂, hpost, hpure⟩
  cases hpure
  exact ⟨first, later, s₁, hpre, hpost, rfl⟩

/-- The first argument of a list and then the others are resolved. -/
theorem after_mapM_cons (hclassify : (b.classify v).after s = (.ok slot, s'))
    (hlater : (args.mapM b.classify).after s' = (.ok later, t)) :
    ((v :: args).mapM b.classify).after s = (.ok (slot :: later), t) := by
  rw [after_classify_cons, hclassify]
  dsimp only
  rw [after_map, hlater]
  rfl

/-- The arguments in front of a position and then those behind it are resolved. -/
theorem after_mapM_append (hpre : (pre.mapM b.classify).after s = (.ok first, s'))
    (hpost : (post.mapM b.classify).after s' = (.ok later, t)) :
    ((pre ++ post).mapM b.classify).after s = (.ok (first ++ later), t) := by
  rw [List.mapM_append, after_bind, hpre]
  dsimp only
  rw [after_bind, hpost]
  rfl

theorem length_slots (hslots : (args.mapM b.classify).after s = (.ok slots, s')) :
    slots.length = args.length := by
  induction args generalizing s slots with
  | nil =>
      cases hslots
      rfl
  | cons v args ih =>
      rcases exists_of_after_cons hslots with ⟨slot, later, s₁, -, hlater, rfl⟩
      rw [List.length_cons, List.length_cons, ih hlater]

/-- A plain argument is resolved by additions, and into a fragment of the graph. -/
theorem extends_of_classify (hs : s.workspace.IsSound) (hv : v.IsPlain)
    (hid : ∀ id, v = .fragment id → s.workspace.graph.Has id)
    (hclassify : (b.classify v).after s = (.ok slot, s')) :
    s.workspace.Extends s'.workspace ∧ s'.workspace.graph.IsClosed ∧
      ∀ id, slot = .product id → s'.workspace.graph.Has id := by
  rcases classify_cases b s hv with ⟨e, heq⟩ | ⟨slot', hslot, heq⟩ | ⟨id, g, heq, hyields⟩
  · rw [heq] at hclassify
    cases hclassify
  · rw [heq] at hclassify
    cases hclassify
    exact ⟨.refl _, hs.isClosed, fun id hproduct => absurd hproduct (hslot id)⟩
  · have hknown : ∀ id, b.Knows s.workspace v id → s.workspace.graph.Has id := by
      rintro id (hregistered | rfl)
      · exact hs.has b.registry id hregistered
      · exact hid id rfl
    rw [heq] at hclassify
    cases hclassify
    refine ⟨.of_graph hyields.extends_graph, hyields.isClosed hs.isClosed hknown, ?_⟩
    rintro _ ⟨⟩
    exact hyields.has hknown

/-- So are plain arguments. -/
theorem extends_of_slots (hs : s.workspace.IsSound) (hargs : ∀ v ∈ args, v.IsPlain)
    (hids : ∀ id, .fragment id ∈ args → s.workspace.graph.Has id)
    (hslots : (args.mapM b.classify).after s = (.ok slots, s')) :
    s.workspace.Extends s'.workspace ∧ s'.workspace.graph.IsClosed ∧
      ∀ id, .product id ∈ slots → s'.workspace.graph.Has id := by
  induction args generalizing s slots with
  | nil =>
      cases hslots
      exact ⟨.refl _, hs.isClosed, fun id hid => nomatch hid⟩
  | cons v args ih =>
      rcases exists_of_after_cons hslots with ⟨slot, later, s₁, hclassify, hlater, rfl⟩
      obtain ⟨hfirst, hclosed, hproduct⟩ := extends_of_classify hs (hargs v List.mem_cons_self)
        (fun id hid => hids id (hid ▸ List.mem_cons_self)) hclassify
      obtain ⟨hrest, hclosed', hproducts⟩ := ih (hfirst.isSound hs hclosed)
        (fun w hw => hargs w (List.mem_cons_of_mem _ hw))
        (fun id hid => hfirst.graph.has (hids id (List.mem_cons_of_mem _ hid))) hlater
      refine ⟨hfirst.trans hrest, hclosed', fun id hid => ?_⟩
      rcases List.mem_cons.1 hid with rfl | hid
      · exact hrest.graph.has (hproduct id rfl)
      · exact hproducts id hid

/-! ## Assembling -/

/-- The first argument is assembled when all behind it have been. -/
theorem exists_assemble_cons (slot : Slot) (later : List Slot) (g : Graph) :
    ∃ product, (assemble (slot :: later) g).1 = product :: (assemble later g).1 ∧
      (assemble later g).2.Keeps (assemble (slot :: later) g).2 := by
  cases slot with
  | product id => exact ⟨some id, rfl, .refl _⟩
  | dropped => exact ⟨none, rfl, .refl _⟩
  | forward direction =>
      rcases Graph.assemble_forward_cases later g direction with heq | ⟨children, ahead, -, rfl, heq⟩
      · rw [heq]
        exact ⟨none, rfl, .refl _⟩
      · rw [heq]
        exact ⟨_, rfl, (Graph.keeps_addComposite _ _).trans (Graph.keeps_addUpTo _ _ _)⟩

/-- The arguments behind a position are assembled before those in front of it. -/
theorem exists_assemble_append (first later : List Slot) (g : Graph) :
    ∃ products, (assemble (first ++ later) g).1 = products ++ (assemble later g).1 ∧
      products.length = first.length ∧
      (assemble later g).2.Keeps (assemble (first ++ later) g).2 := by
  induction first with
  | nil => exact ⟨[], rfl, rfl, .refl _⟩
  | cons slot first ih =>
      rcases ih with ⟨products, hproducts, hlength, hkeeps⟩
      rcases exists_assemble_cons slot (first ++ later) g with ⟨product, hproduct, hkeeps'⟩
      refine ⟨product :: products, ?_, congrArg Nat.succ hlength, hkeeps.trans hkeeps'⟩
      rw [List.cons_append, hproduct, hproducts]
      rfl

/-- A forward reference is a node over all fragments behind it and the end of the expression. -/
theorem exists_assemble_forward {direction : UntilDirection}
    (hlater : (assemble later g).1.filterMap id ≠ [])
    (hkeeps : (assemble (.forward direction :: later) g).2.Keeps g') : ∃ upTo ahead ending,
      (assemble (.forward direction :: later) g).1 = some upTo :: (assemble later g).1 ∧
      g'.IsPlain upTo (.upTo ahead ending direction) ∧
      g'.IsPlain ahead (.composite ((assemble later g).1.filterMap id)) ∧
      g'.IsPlain ending .expressionEnd := by
  have heq := assemble_forward_of_ne hlater direction rfl
  rw [heq] at hkeeps
  rw [heq]
  let copy := (assemble later g).2.addComposite ((assemble later g).1.filterMap id)
  rcases Graph.isPlain_addUpTo copy.2 copy.1 direction with ⟨ending, hupTo, hending⟩
  exact ⟨_, _, ending, rfl, hupTo.of_keeps hkeeps,
    ((Graph.isPlain_addComposite _ _).of_keeps (Graph.keeps_addUpTo _ _ _)).of_keeps hkeeps,
    hending.of_keeps hkeeps⟩

/-! ## Names -/

theorem anchor?_eq_none_iff {name : String} :
    anchor? name = none ↔ name ≠ "begin" ∧ name ≠ "end" := by
  unfold anchor?
  split <;> simp_all

/-- A name refers to nothing only if it is unknown, carries no suffix and is no anchor. -/
theorem resolveReference_eq_none_iff {name : String} {found : Option FragmentId}
    (hname : (b.resolveReference name).after s = (.ok found, s')) : found = none ↔
      (s.workspace.names b.registry).resolve? name = none ∧ Suffix.split? name.toList = none ∧
        name ≠ "begin" ∧ name ≠ "end" := by
  rw [← anchor?_eq_none_iff]
  simp only [resolveReference, after_bind, after_workspace] at hname
  cases hresolve : (s.workspace.names b.registry).resolve? name with
  | some resolution =>
      rw [hresolve] at hname
      rcases exists_of_after_map hname with ⟨id, -, rfl⟩
      simp
  | none =>
      rw [hresolve] at hname
      dsimp only at hname
      cases hanchor : anchor? name with
      | some source =>
          rw [hanchor] at hname
          cases hname
          simp
      | none =>
          rw [hanchor] at hname
          dsimp only at hname
          cases hsuffix : Suffix.split? name.toList with
          | some split =>
              rw [hsuffix] at hname
              cases hname
          | none =>
              rw [hsuffix] at hname
              cases hname
              simp

/-! ## The shape of a combination -/

/-- What becomes of an argument that is resolved in a workspace, if `later` are the fragments of the
arguments behind it.  A forward reference is a node over all of these, if there are any, and over
the end of the expression; a name that refers to nothing has no fragment, and any other argument
has one. -/
def Becomes (b : Builder) (w : Workspace) (g : Graph) (later : List (Option FragmentId)) :
    Argument σ → Option FragmentId → Prop
  | .upTo direction none, product =>
    (product = none ↔ ∀ other ∈ later, other = none) ∧
      ∀ upTo ∈ product, ∃ ahead ending, g.IsPlain upTo (.upTo ahead ending direction) ∧
        g.IsPlain ahead (.composite (later.filterMap id)) ∧ g.IsPlain ending .expressionEnd
  | .name text, product => product = none ↔
    (w.names b.registry).resolve? text = none ∧ Suffix.split? text.toList = none ∧
      text ≠ "begin" ∧ text ≠ "end"
  | _, product => product ≠ none

/-- A resolved argument becomes what it should when it is assembled. -/
theorem exists_becomes (hclassify : (b.classify v).after s = (.ok slot, s'))
    (hkeeps : (assemble (slot :: later) g).2.Keeps g') : ∃ product,
      (assemble (slot :: later) g).1 = product :: (assemble later g).1 ∧
      b.Becomes s.workspace g' (assemble later g).1 v product := by
  have hproduct : ∀ {m : Session σ FragmentId},
      (Slot.product <$> m).after s = (.ok slot, s') → ∃ id,
        (assemble (slot :: later) g).1 = some id :: (assemble later g).1 := by
    intro m hm
    rcases exists_of_after_map hm with ⟨id, -, rfl⟩
    exact ⟨id, rfl⟩
  cases v with
  | native | fragment | textFunction | function | literal =>
      rcases hproduct hclassify with ⟨id, hid⟩
      exact ⟨some id, hid, Option.some_ne_none id⟩
  | name text =>
      rcases exists_of_after_bind hclassify with ⟨found, s₁, hfound, hslot⟩
      have hnone := resolveReference_eq_none_iff hfound
      cases found with
      | none =>
          cases hslot
          exact ⟨none, rfl, hnone⟩
      | some id =>
          cases hslot
          exact ⟨some id, rfl, hnone⟩
  | upTo direction native? =>
      cases native? with
      | some native =>
          rcases hproduct hclassify with ⟨id, hid⟩
          exact ⟨some id, hid, Option.some_ne_none id⟩
      | none =>
          cases hclassify
          -- A reference with nothing behind it is dropped.
          by_cases hlater : (assemble later g).1.filterMap id = []
          · rw [assemble_forward_of_eq hlater]
            refine ⟨none, rfl, iff_of_true rfl fun other hother => ?_, nofun⟩
            exact List.filterMap_eq_nil_iff.1 hlater other hother
          · rcases exists_assemble_forward hlater hkeeps with
              ⟨upTo, ahead, ending, heq, hupTo, hahead, hending⟩
            refine ⟨some upTo, heq, iff_of_false (Option.some_ne_none upTo) fun hnone => ?_, ?_⟩
            · exact hlater (List.filterMap_eq_nil_iff.2 hnone)
            · rintro _ ⟨⟩
              exact ⟨ahead, ending, hupTo, hahead, hending⟩

/-- The composite of a combination has the fragments of its arguments as children. -/
theorem exists_combine_of_products {products : List (Option FragmentId)}
    (hproducts : (b.products args).after s = (.ok products, s')) : ∃ root s'',
      (b.combine args).after s = (.ok root, s'') ∧
      s'.workspace.graph.Keeps s''.workspace.graph ∧
      s''.workspace.graph.IsPlain root (.composite (products.filterMap id)) := by
  let combined := s'.workspace.graph.combined b.registry (products.filterMap id)
  refine ⟨combined.1, s'.withGraph combined.2, ?_, Graph.keeps_combined _ _ _,
    Graph.isPlain_combined _ _ _⟩
  rw [after_combine, hproducts]

/-- What is compiled is the composite of a combination. -/
theorem after_compile_of_combine {root : FragmentId}
    (hcombine : (b.combine args).after s = (.ok root, s')) :
    (b.compile args).after s = (s'.workspace.graph.regex root none b.flags, s') := by
  rw [compile, after_bind, hcombine]
  rfl

/-- Let the arguments of a list be resolved and assembled.  There is one fragment or none for each
argument, in order: that of a forward reference is a node over the fragments of all arguments behind
it, if there are any; a name has none if it refers to nothing; any other argument has one.  The
combination of the arguments has these fragments as its children. -/
theorem products_shape {products : List (Option FragmentId)}
    (hproducts : (b.products args).after s = (.ok products, s')) :
    products.length = args.length ∧
    (∀ pre v post, args = pre ++ v :: post → ∃ first product later slots s₁,
      products = first ++ product :: later ∧ first.length = pre.length ∧
      (pre.mapM b.classify).after s = (.ok slots, s₁) ∧
      b.Becomes s₁.workspace s'.workspace.graph later v product) ∧
    ∃ root s'', (b.combine args).after s = (.ok root, s'') ∧
      s'.workspace.graph.Keeps s''.workspace.graph ∧
      s''.workspace.graph.IsPlain root (.composite (products.filterMap id)) := by
  refine ⟨?_, ?_, exists_combine_of_products hproducts⟩
  all_goals
    rcases exists_of_after_bind hproducts with ⟨slots, s₁, hslots, hassemble⟩
    cases hassemble
  · rcases exists_assemble_append slots [] s₁.workspace.graph with ⟨products, heq, hlength, -⟩
    rw [List.append_nil] at heq
    rw [heq, ← length_slots hslots, ← hlength]
    exact congrArg List.length (List.append_nil products)
  · rintro pre v post rfl
    rcases exists_slots_of_append hslots with ⟨first, others, s₂, hpre, hpost, rfl⟩
    rcases exists_of_after_cons hpost with ⟨slot, later, s₃, hclassify, -, rfl⟩
    rcases exists_assemble_append first (slot :: later) s₁.workspace.graph with
      ⟨products, heq, hlength, hkeeps⟩
    rcases exists_becomes hclassify hkeeps with ⟨product, hproduct, hbecomes⟩
    refine ⟨products, product, _, first, s₂, ?_, hlength.trans (length_slots hpre), hpre, hbecomes⟩
    rw [← hproduct]
    exact heq

/-- In the list of `a`, a reference, an unknown name, another reference, the anchor `begin` and a last
reference, the first reference is one to the second and to the anchor. -/
theorem products_shape_references :
    let b : Builder := ⟨⟨0⟩, none⟩
    let s : SessionState Unit := ((create none).after ⟨Workspace.empty, ()⟩).2
    let args : List (Argument Unit) := [.native (.ofSource "a"), .upTo .behind none,
      .name "missing", .upTo .ahead none, .name "begin", .upTo .ahead none]
    ∃ ahead ending s',
      (b.products args).after s =
        (.ok [some ⟨0⟩, some ⟨7⟩, none, some ⟨4⟩, some ⟨1⟩, none], s') ∧
      s'.workspace.graph.IsPlain ⟨7⟩ (.upTo ahead ending .behind) ∧
      s'.workspace.graph.IsPlain ahead (.composite [⟨4⟩, ⟨1⟩]) ∧
      s'.workspace.graph.IsPlain ending .expressionEnd := by
  intro b s args
  have hok : ((b.products args).after s).1.toOption =
      some [some ⟨0⟩, some ⟨7⟩, none, some ⟨4⟩, some ⟨1⟩, none] := by
    decide +kernel
  cases hproducts : (b.products args).after s with
  | mk result s' =>
      rw [hproducts] at hok
      cases result with
      | error e => cases hok
      | ok products =>
          obtain rfl := Option.some.inj hok
          rcases (products_shape hproducts).2.1 [.native (.ofSource "a")] (.upTo .behind none) _
            rfl with ⟨first, product, later, slots, s₁, heq, hlength, -, -, hreference⟩
          obtain ⟨leaf, rfl⟩ := List.length_eq_one_iff.1 hlength
          cases heq
          rcases hreference ⟨7⟩ rfl with ⟨ahead, ending, hupTo, hahead, hending⟩
          exact ⟨ahead, ending, s', rfl, hupTo, hahead, hending⟩

end Builder

end RegexComposition

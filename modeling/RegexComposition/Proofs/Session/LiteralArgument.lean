import RegexComposition.Proofs.Fragment.ExtraLeaf
import RegexComposition.Proofs.Fragment.LiteralText
import RegexComposition.Proofs.Session.Insertion

/-!
# Literals among arguments

A literal among arguments is one more leaf in the graph.  The arguments behind it are resolved as
without it, if the functions among them do not notice a leaf that they have not been given, and the
source stays accepted, unless the flags forbid to escape the literal.

Main results:

- `SessionState.WithLeaf`: the second state is the first one with a leaf more.
- `Builder.IsHeedless`, `Builder.AreHeedless`: the functions that do not notice the leaf, and arguments
  with such functions.
- `Builder.after_mapM_withLeaf`: such arguments become the same.
- `Builder.literals_accepted`: when arguments are compiled with a literal among them.
-/

namespace RegexComposition

/-- Whether the argument waits for those behind it. -/
def Argument.waits {σ : Type} : Argument σ → Bool
  | .upTo _ none => true
  | _ => false

/-! ## Names of other fragments -/

/-- A table with other fragments for its names. -/
def NameTable.map (f : FragmentId → FragmentId) (t : NameTable) : NameTable :=
  ⟨t.entries.map fun entry => (entry.1, f entry.2)⟩

theorem NameTable.get?_map (f : FragmentId → FragmentId) (t : NameTable) (name : String) :
    (t.map f).get? name = (t.get? name).map f := by
  obtain ⟨entries⟩ := t
  simp only [map, get?]
  induction entries with
  | nil => rfl
  | cons entry entries ih =>
      rw [List.map_cons, List.lookup_cons, List.lookup_cons]
      cases name == entry.1 with
      | true => rfl
      | false => exact ih

theorem NameTable.map_of_forall {f : FragmentId → FragmentId} {t : NameTable}
    (h : ∀ entry ∈ t.entries, f entry.2 = entry.2) : t.map f = t := by
  obtain ⟨entries⟩ := t
  refine congrArg NameTable.mk ((List.map_congr_left fun entry hentry => ?_).trans (List.map_id' _))
  rw [h entry hentry]

namespace Registry

variable {r : Registry} {f : FragmentId → FragmentId}

/-- A registry with other fragments for its names. -/
def map (f : FragmentId → FragmentId) (r : Registry) : Registry := ⟨r.aliases.map f, r.groups.map f⟩

theorem get?_map (f : FragmentId → FragmentId) (r : Registry) (name : String) :
    (r.map f).get? name = (r.get? name).map f := by
  rw [get?, get?, map, NameTable.get?_map, NameTable.get?_map]
  cases r.aliases.get? name <;> rfl

theorem resolveFrom_map (f : FragmentId → FragmentId) (r : Registry) (modifiers : Modifiers)
    (token : List Char) : (r.map f).resolveFrom modifiers token =
      (r.resolveFrom modifiers token).map fun found => { found with target := f found.target } := by
  fun_induction resolveFrom r modifiers token with
  | case1 modifiers token name target htarget =>
      rw [resolveFrom, get?_map, htarget]
      rfl
  | case2 modifiers token name hname rest suffix hsplit ih =>
      rw [resolveFrom, get?_map, hname]
      dsimp only [Option.map_none]
      split
      · next rest' suffix' hsplit' =>
          rw [hsplit] at hsplit'
          cases hsplit'
          exact ih
      · next hsplit' =>
          rw [hsplit] at hsplit'
          cases hsplit'
  | case3 modifiers token name hname hsplit =>
      rw [resolveFrom, get?_map, hname]
      dsimp only [Option.map_none]
      split
      · next hsplit' =>
          rw [hsplit] at hsplit'
          cases hsplit'
      · rfl

/-- The names refer to the other fragments, with and without suffixes. -/
theorem resolve?_map (f : FragmentId → FragmentId) (r : Registry) (token : String) :
    (r.map f).resolve? token =
      (r.resolve? token).map fun found => { found with target := f found.target } :=
  resolveFrom_map f r _ _

theorem map_of_forall (h : ∀ id, r.Registers id → f id = id) : r.map f = r := by
  have haliases : r.aliases.map f = r.aliases :=
    NameTable.map_of_forall fun entry hentry => h entry.2 ⟨.alias, entry.1, hentry⟩
  have hgroups : r.groups.map f = r.groups :=
    NameTable.map_of_forall fun entry hentry => h entry.2 ⟨.group, entry.1, hentry⟩
  rw [map, haliases, hgroups]

end Registry

/-- Registries in which the names refer to no other fragments are the same. -/
theorem Workspace.registries_map_of_forall {w : Workspace} {f : FragmentId → FragmentId}
    (h : ∀ r id, (w.names r).Registers id → f id = id) :
    w.registries.map (fun entry => { entry with names := entry.names.map f }) = w.registries := by
  refine Array.ext (Array.size_map ..) fun i _ hi => ?_
  have hnames : w.names ⟨i⟩ = w.registries[i].names := by
    rw [names, Array.getD_eq_getD_getElem?, Array.getElem?_eq_getElem hi]
    rfl
  rw [Array.getElem_map, Registry.map_of_forall fun id hid => h ⟨i⟩ id (hnames ▸ hid)]

/-! ## States with one more leaf -/

section WithLeaf

variable {σ : Type} {M : σ → σ → Prop} {k : FragmentId} {pattern : NativePattern}
variable {s s' t : SessionState σ} {b : Builder}

/-- The second state is the first one with a leaf more at the given place.  `M` says how what user
functions remember may differ. -/
structure SessionState.WithLeaf (M : σ → σ → Prop) (k : FragmentId) (pattern : NativePattern)
    (s s' : SessionState σ) : Prop where
  graph : s.workspace.graph.WithLeaf k pattern s'.workspace.graph
  registries : s'.workspace.registries =
    s.workspace.registries.map fun entry => { entry with names := entry.names.map k.past }
  memory : M s.memory s'.memory

namespace SessionState.WithLeaf

theorem names (h : s.WithLeaf M k pattern s') (r : RegistryId) :
    s'.workspace.names r = (s.workspace.names r).map k.past := by
  rw [Workspace.names, Workspace.names, h.registries, Array.getD_eq_getD_getElem?,
    Array.getD_eq_getD_getElem?, Array.getElem?_map]
  cases s.workspace.registries[r.index]? <;> rfl

theorem withGraph {g g' : Graph} (h : s.WithLeaf M k pattern s') (hg : g.WithLeaf k pattern g') :
    (s.withGraph g).WithLeaf M k pattern (s'.withGraph g') := ⟨hg, h.registries, h.memory⟩

/-- A leaf that is added to a sound state. -/
theorem of_graph {g : Graph} (hs : s.workspace.IsSound) (hM : M s.memory s.memory)
    (h : s.workspace.graph.WithLeaf (s.workspace.graph.addNative pattern).1 pattern g) :
    s.WithLeaf M (s.workspace.graph.addNative pattern).1 pattern (s.withGraph g) := by
  refine ⟨h, ?_, hM⟩
  exact (Workspace.registries_map_of_forall fun r id hid =>
    FragmentId.past_of_lt (hs.has r id hid)).symm

end SessionState.WithLeaf

/-! ## Resolving arguments -/

namespace Builder

open Session

/-- A slot with another fragment. -/
def Slot.map (f : FragmentId → FragmentId) : Slot → Slot
  | .product id => .product (f id)
  | .forward direction => .forward direction
  | .dropped => .dropped

/-- The function makes the same fragment if there is a leaf more that it has not been given. -/
def IsHeedless (M : σ → σ → Prop) (make : Builder → Session σ FragmentId) : Prop :=
  ∀ (b : Builder) (k : FragmentId) (pattern : NativePattern) (s s' : SessionState σ),
    s.workspace.IsSound → s.WithLeaf M k pattern s' → ∀ id t, (make b).after s = (.ok id, t) →
      ∃ t', (make b).after s' = (.ok (k.past id), t') ∧ t.WithLeaf M k pattern t'

/-- A leaf that is made with and without the other one. -/
theorem after_addNative (h : s.WithLeaf M k pattern s') (native : NativePattern) :
    ∃ t', (onGraph (·.addNative native) : Session σ FragmentId).after s' =
        (.ok (k.past (s.workspace.graph.addNative native).1), t') ∧
      (s.withGraph (s.workspace.graph.addNative native).2).WithLeaf M k pattern t' := by
  obtain ⟨hid, hgraph⟩ := h.graph.addNative native
  rw [hid]
  exact ⟨_, rfl, h.withGraph hgraph⟩

/-- A name refers to the same fragment. -/
theorem after_resolveReference_withLeaf (h : s.WithLeaf M k pattern s') {name : String}
    {id? : Option FragmentId} (hrun : (b.resolveReference name).after s = (.ok id?, t)) :
    ∃ t', (b.resolveReference name).after s' = (.ok (id?.map k.past), t') ∧
      t.WithLeaf M k pattern t' := by
  simp only [resolveReference, after_bind, after_workspace, h.names, Registry.resolve?_map] at hrun ⊢
  cases hfound : (s.workspace.names b.registry).resolve? name with
  | some found =>
      rw [hfound] at hrun
      dsimp only [Option.map_some] at hrun ⊢
      rw [after_map] at hrun ⊢
      unfold ofResolution at hrun ⊢
      split at hrun
      · next hempty =>
          cases hrun
          rw [if_pos hempty]
          exact ⟨_, rfl, h⟩
      · next hmodifiers =>
          cases hrun
          rw [if_neg hmodifiers]
          obtain ⟨hid, hgraph⟩ := h.graph.addWrapper found.target found.modifiers
          refine ⟨_, ?_, h.withGraph hgraph⟩
          rw [after_onGraph, ← hid]
          rfl
  | none =>
      rw [hfound] at hrun
      dsimp only [Option.map_none] at hrun ⊢
      split at hrun
      · next source hanchor =>
          rw [after_map] at hrun ⊢
          cases hrun
          rcases after_addNative h (.ofSource source) with ⟨t', hrun', ht'⟩
          refine ⟨t', ?_, ht'⟩
          rw [addSource, hrun']
          rfl
      · split at hrun
        · cases hrun
        · next hsuffix =>
            cases hrun
            rw [if_neg hsuffix]
            exact ⟨_, rfl, h⟩

/-- A fragment that is made alike becomes the same argument. -/
theorem after_product_withLeaf {m : Session σ FragmentId} {slot : Slot}
    (hm : ∀ id t, m.after s = (.ok id, t) →
      ∃ t', m.after s' = (.ok (k.past id), t') ∧ t.WithLeaf M k pattern t')
    (hrun : (Slot.product <$> m).after s = (.ok slot, t)) :
    ∃ t', (Slot.product <$> m).after s' = (.ok (slot.map k.past), t') ∧
      t.WithLeaf M k pattern t' := by
  rw [after_map] at hrun ⊢
  cases houtcome : m.after s with
  | mk result s₁ =>
      rw [houtcome] at hrun
      cases result with
      | error e => cases hrun
      | ok id =>
          cases hrun
          rcases hm id _ houtcome with ⟨t', hrun', ht'⟩
          rw [hrun']
          exact ⟨t', rfl, ht'⟩

/-- An argument becomes the same, if its function does not notice the leaf. -/
theorem after_classify_withLeaf {v : Argument σ} {slot : Slot} (hs : s.workspace.IsSound)
    (h : s.WithLeaf M k pattern s') (hfragment : ∀ id, v = .fragment id → id.index < k.index)
    (hheedless : ∀ make, v.function? = some make → IsHeedless M make)
    (hrun : (b.classify v).after s = (.ok slot, t)) :
    ∃ t', (b.classify v).after s' = (.ok (slot.map k.past), t') ∧ t.WithLeaf M k pattern t' := by
  have hleaf : ∀ (native : NativePattern) (id : FragmentId) (t : SessionState σ),
      (onGraph (·.addNative native) : Session σ FragmentId).after s = (.ok id, t) →
        ∃ t', (onGraph (·.addNative native) : Session σ FragmentId).after s' =
          (.ok (k.past id), t') ∧ t.WithLeaf M k pattern t' := by
    intro native id t hrun
    cases hrun
    exact after_addNative h native
  cases v with
  | native native => exact after_product_withLeaf (hleaf native) hrun
  | fragment id =>
      cases hrun
      refine ⟨s', ?_, h⟩
      rw [Slot.map, FragmentId.past_of_lt (hfragment id rfl)]
      rfl
  | name text =>
      rw [classify, after_bind] at hrun ⊢
      cases houtcome : (b.resolveReference text).after s with
      | mk result s₁ =>
          rw [houtcome] at hrun
          cases result with
          | error e => cases hrun
          | ok id? =>
              rcases after_resolveReference_withLeaf h houtcome with ⟨t', hrun', ht'⟩
              rw [hrun']
              cases id? with
              | none =>
                  cases hrun
                  exact ⟨t', rfl, ht'⟩
              | some id =>
                  cases hrun
                  exact ⟨t', rfl, ht'⟩
  | function | textFunction =>
      exact after_product_withLeaf (hheedless _ rfl b k pattern s s' hs h) hrun
  | literal value => exact after_product_withLeaf (hleaf _) hrun
  | upTo direction native? =>
      cases native? with
      | some native => exact after_product_withLeaf (hleaf native) hrun
      | none =>
          cases hrun
          exact ⟨s', rfl, h⟩

end Builder

end WithLeaf

namespace Builder

open Session

variable {σ : Type} {M : Chronicle σ → Chronicle σ → Prop} {k : FragmentId}
variable {pattern : NativePattern} {b : Builder} {args pre post : List (Argument (Chronicle σ))}
variable {s s' t : SessionState (Chronicle σ)}

/-- The functions among the first arguments of a list are called while it is resolved. -/
theorem Calls.append_left {make : Builder → Session (Chronicle σ) FragmentId}
    (h : b.Calls make t pre s) (post : List (Argument (Chronicle σ))) :
    b.Calls make t (pre ++ post) s := by
  induction h with
  | here hv => exact .here hv
  | there hclassify _ ih => exact .there hclassify ih

theorem Admits.append_left (h : b.Admits (pre ++ post) s) : b.Admits pre s where
  hasRegistry := h.hasRegistry
  has := fun id hid => h.has id (List.mem_append_left _ hid)
  has_of_calls := fun make s₁ id s₂ hcalls => h.has_of_calls make s₁ id s₂ (hcalls.append_left post)

/-- Arguments that can be resolved in the state, which is sound.  Their functions keep to the rules of
a session and do not notice a leaf that they have not been given. -/
structure AreHeedless (M : Chronicle σ → Chronicle σ → Prop) (b : Builder)
    (args : List (Argument (Chronicle σ))) (s : SessionState (Chronicle σ)) : Prop where
  sound : s.workspace.IsSound
  admits : b.Admits args s
  obeys : ∀ make s₁, b.Calls make s₁ args s → Obeys (fun _ _ => True) (make b) s₁
  heedless : ∀ v ∈ args, ∀ make, v.function? = some make → IsHeedless M make

namespace AreHeedless

variable {v : Argument (Chronicle σ)} {slot : Slot} {slots first : List Slot}

/-- They only take allowed actions, and become fragments of the graph. -/
theorem path (h : b.AreHeedless M args s) (hrun : (args.mapM b.classify).after s = (.ok slots, t)) :
    Path (fun _ _ => True) s t ∧ ∀ id, .product id ∈ slots → t.workspace.graph.Has id := by
  obtain ⟨hpath, hproducts⟩ := path_mapM_classify h.sound h.admits fun make s₁ hmake hbefore =>
    (h.obeys make s₁ hmake).path (hbefore.isSound h.sound)
  rw [hrun] at hpath
  exact ⟨hpath, hproducts _ t hrun⟩

/-- Once the first argument has been resolved, the others can be. -/
theorem tail (h : b.AreHeedless M (v :: args) s)
    (hclassify : (b.classify v).after s = (.ok slot, s')) : b.AreHeedless M args s' := by
  obtain ⟨hpath, -⟩ := path_classify h.sound h.admits fun make s₁ hmake hbefore =>
    (h.obeys make s₁ hmake).path (hbefore.isSound h.sound)
  rw [hclassify] at hpath
  exact ⟨hpath.isSound h.sound, h.admits.tail hclassify hpath,
    fun make s₁ hmake => h.obeys make s₁ (.there hclassify hmake),
    fun v hv => h.heedless v (List.mem_cons_of_mem _ hv)⟩

theorem append_left (h : b.AreHeedless M (pre ++ post) s) : b.AreHeedless M pre s where
  sound := h.sound
  admits := h.admits.append_left
  obeys := fun make s₁ hmake => h.obeys make s₁ (hmake.append_left post)
  heedless := fun v hv => h.heedless v (List.mem_append_left _ hv)

theorem append_right (h : b.AreHeedless M (pre ++ post) s)
    (hpre : (pre.mapM b.classify).after s = (.ok first, s')) : b.AreHeedless M post s' := by
  induction pre generalizing s first with
  | nil =>
      cases hpre
      exact h
  | cons v pre ih =>
      rcases exists_of_after_cons hpre with ⟨slot, rest, s₁, hclassify, hrest, -⟩
      exact ih (h.tail hclassify) hrest

end AreHeedless

/-- The arguments of a list become the same. -/
theorem after_mapM_withLeaf {slots : List Slot} (hargs : b.AreHeedless M args s)
    (hfragments : ∀ id, .fragment id ∈ args → id.index < k.index)
    (h : s.WithLeaf M k pattern s') (hrun : (args.mapM b.classify).after s = (.ok slots, t)) :
    ∃ t', (args.mapM b.classify).after s' = (.ok (slots.map (Slot.map k.past)), t') ∧
      t.WithLeaf M k pattern t' := by
  induction args generalizing s s' slots with
  | nil =>
      cases hrun
      exact ⟨s', rfl, h⟩
  | cons v args ih =>
      rcases exists_of_after_cons hrun with ⟨slot, later, s₁, hclassify, hlater, rfl⟩
      have hfragment : ∀ id, v = .fragment id → id.index < k.index := fun id hid =>
        hfragments id (hid ▸ List.mem_cons_self)
      rcases after_classify_withLeaf hargs.sound h hfragment
        (hargs.heedless v List.mem_cons_self) hclassify with ⟨s₁', hclassify', h₁⟩
      rcases ih (hargs.tail hclassify) (fun id hid => hfragments id (List.mem_cons_of_mem _ hid)) h₁
        hlater with ⟨t', hlater', ht'⟩
      exact ⟨t', after_mapM_cons hclassify' hlater', ht'⟩

/-! ## What the arguments are compiled into -/

section Slots

variable {g g' : Graph} {slots first later : List Slot} {levels : Nat}

/-- Whether the argument waits for those behind it. -/
def Slot.waits : Slot → Bool
  | .forward _ => true
  | _ => false

/-- Fragments that are compiled alike are assembled alike. -/
theorem assembled_map {part part' : FragmentId → Emission} {f : FragmentId → FragmentId}
    (h : ∀ id, part' (f id) = part id) (slots : List Slot) :
    assembled part' (slots.map (Slot.map f)) = assembled part slots := by
  induction slots with
  | nil => rfl
  | cons slot slots ih => cases slot <;> simp [assembled, Slot.map, h, ih]

/-- The fragments have the same flags. -/
theorem flagsOf_map {f : FragmentId → FragmentId} (h : ∀ id, g'.partFlags (f id) = g.partFlags id)
    (slots : List Slot) : flagsOf g' (slots.map (Slot.map f)) = flagsOf g slots := by
  induction slots with
  | nil => rfl
  | cons slot slots ih => cases slot <;> simp [flagsOf, Slot.map, h, ih]

/-- A fragment without flags adds none. -/
theorem flagsOf_insert_product {id : FragmentId} (h : g.partFlags id = []) (pre post : List Slot) :
    flagsOf g (pre ++ .product id :: post) = flagsOf g (pre ++ post) := by
  induction pre with
  | nil => simp [flagsOf, h]
  | cons slot pre ih => cases slot <;> simp [flagsOf, ih]

/-- The fragments are nested as deep. -/
theorem nests_map {f : FragmentId → FragmentId}
    (h : ∀ levels id, g'.NestsWithin levels (f id) ↔ g.NestsWithin levels id) (slots : List Slot)
    (levels : Nat) : Nests g' (slots.map (Slot.map f)) levels ↔ Nests g slots levels := by
  induction slots generalizing levels with
  | nil => exact Iff.rfl
  | cons slot slots ih => cases slot <;> simp [Nests, Slot.map, h, ih]

/-- A leaf has to be above the limit, and every argument in front that waits for it brings it two
levels down. -/
theorem nests_insert_leaf {id : FragmentId} (h : ∀ levels, g.NestsWithin levels id ↔ 0 < levels)
    (pre post : List Slot) (levels : Nat) : Nests g (pre ++ .product id :: post) levels ↔
      2 * pre.countP Slot.waits < levels ∧ Nests g (pre ++ post) levels := by
  induction pre generalizing levels with
  | nil => simp [Nests, h]
  | cons slot pre ih =>
      cases slot with
      | product first => simp [Nests, ih, Slot.waits, and_left_comm]
      | dropped => simp [Nests, ih, Slot.waits]
      | forward direction =>
          simp only [List.cons_append, Nests, ih, List.countP_cons, Slot.waits, if_true]
          refine and_congr_left fun _ => ?_
          omega

/-- A fragment of slots with other fragments is another one of the slots. -/
theorem exists_of_product_mem_map {f : FragmentId → FragmentId} {id : FragmentId}
    (h : .product id ∈ slots.map (Slot.map f)) : ∃ id', .product id' ∈ slots ∧ id = f id' := by
  rcases List.mem_map.1 h with ⟨slot, hslot, heq⟩
  cases slot with
  | product id' => exact ⟨id', hslot, (Slot.product.inj heq).symm⟩
  | dropped | forward => cases heq

/-- A fragment between slots with other fragments is the new one or another one of the slots. -/
theorem eq_or_exists_of_product_mem {f : FragmentId → FragmentId} {id leaf : FragmentId}
    (h : .product id ∈ first.map (Slot.map f) ++ .product leaf :: later.map (Slot.map f)) :
    id = leaf ∨ ∃ id', .product id' ∈ first ++ later ∧ id = f id' := by
  rcases List.mem_append.1 h with hid | hid
  · rcases exists_of_product_mem_map hid with ⟨id', hid', heq⟩
    exact .inr ⟨id', List.mem_append_left _ hid', heq⟩
  · rcases List.mem_cons.1 hid with heq | hid
    · exact .inl (Slot.product.inj heq)
    · rcases exists_of_product_mem_map hid with ⟨id', hid', heq⟩
      exact .inr ⟨id', List.mem_append_right _ hid', heq⟩

/-- With the leaf between them, slots are nested as deep as before or as the leaf is. -/
theorem nests_withLeaf {k : FragmentId} {pattern : NativePattern} (h : g.WithLeaf k pattern g') :
    Nests g' (first.map (Slot.map k.past) ++ .product k :: later.map (Slot.map k.past)) levels ↔
      2 * first.countP Slot.waits < levels ∧ Nests g (first ++ later) levels := by
  have hwaits : (first.map (Slot.map k.past)).countP Slot.waits = first.countP Slot.waits := by
    rw [List.countP_map]
    congr 1
    funext slot
    cases slot <;> rfl
  rw [nests_insert_leaf fun _ => h.nestsWithin_leaf_iff, hwaits, ← List.map_append,
    nests_map h.nestsWithin_iff]

end Slots

/-- Arguments that have been compiled were resolved into fragments that are not nested too deep, and
whose source is accepted. -/
theorem compile_of_slots {slots : List Slot} {r : Regex}
    (hslots : (args.mapM b.classify).after s = (.ok slots, t)) (hclosed : t.workspace.graph.IsClosed)
    (hhas : ∀ id, .product id ∈ slots → t.workspace.graph.Has id)
    (hcompile : (b.compile args).after s = (.ok r, s')) :
    Nests t.workspace.graph slots maxNesting ∧
      Regex.compile (assembledSource t.workspace.graph.part slots)
        (b.flags.getD (Flags.ofList (flagsOf t.workspace.graph slots))).withGlobal = .ok r := by
  rcases after_compile_of_slots hslots hclosed hhas with ⟨s'', hrun, hdeep⟩
  by_cases hnests : Nests t.workspace.graph slots maxNesting
  · rw [hrun hnests] at hcompile
    exact ⟨hnests, (Prod.mk.inj hcompile).1⟩
  · rw [hdeep hnests] at hcompile
    cases hcompile

/-- What becomes of arguments that have been compiled when a literal is put among them, behind so
many that wait for what is behind them: they are compiled under the same flags, unless these refuse
the text, or the literal is copied too deep. -/
structure TakesLiteral (r : Regex) (text : String) (waiting : Nat)
    (outcome : Except CompositionError Regex) : Prop where
  accepted : 2 * waiting < maxNesting → ¬ r.flags.Refuses text →
    ∃ r', outcome = .ok r' ∧ r'.flags = r.flags
  rejected : 2 * waiting < maxNesting → r.flags.Refuses text →
    ∃ source cause, outcome = .error (.invalidPattern source cause)
  tooDeep : maxNesting ≤ 2 * waiting → outcome = .error (.nestingTooDeep maxNesting)

/-- Resolved arguments that are the same, apart from a literal among them. -/
theorem takesLiteral_of_withLeaf {args' : List (Argument (Chronicle σ))} {r : Regex} {text : String}
    {u t' : SessionState (Chronicle σ)} {first later : List Slot}
    (hslots : (args.mapM b.classify).after s = (.ok (first ++ later), t))
    (hclosed : t.workspace.graph.IsClosed)
    (hhas : ∀ id, .product id ∈ first ++ later → t.workspace.graph.Has id)
    (hpairs : PairsAll t.workspace.graph.part (first ++ later))
    (hcompile : (b.compile args).after s = (.ok r, s'))
    (hslots' : (args'.mapM b.classify).after u = (.ok (first.map (Slot.map k.past) ++
      .product k :: later.map (Slot.map k.past)), t'))
    (h : t.WithLeaf M k (.ofSource (escapeLiteral text)) t') :
    TakesLiteral r text (first.countP Slot.waits) ((b.compile args').after u).1 := by
  have hpart : ∀ id, t'.workspace.graph.part (k.past id) = t.workspace.graph.part id :=
    h.graph.emission maxNesting
  have hflags : ∀ id, t'.workspace.graph.partFlags (k.past id) = t.workspace.graph.partFlags id :=
    fun id => by rw [Graph.partFlags, h.graph.leafFlags, Graph.partFlags]
  have hleafPart : t'.workspace.graph.part k = Emission.ofString (escapeLiteral text) :=
    h.graph.leaf.emission 511
  have hleafFlags : t'.workspace.graph.partFlags k = [] := by
    have hleaf := h.graph.leaf.leafFlags_native 511
    rw [Graph.partFlags, show maxNesting = 511 + 1 from rfl, hleaf]
    rfl
  have hhas' : ∀ id, .product id ∈ first.map (Slot.map k.past) ++
      .product k :: later.map (Slot.map k.past) → t'.workspace.graph.Has id := by
    intro id hid
    rcases eq_or_exists_of_product_mem hid with rfl | ⟨id', hid', rfl⟩
    · exact h.graph.has_leaf
    · exact h.graph.has_past_iff.2 (hhas id' hid')
  obtain ⟨hnests, hsource⟩ := compile_of_slots hslots hclosed hhas hcompile
  rcases after_compile_of_slots hslots' (h.graph.isClosed hclosed) hhas' with ⟨s'', hrun, hdeep⟩
  -- Each reference in front copies the leaf two levels further down.
  have hnests' : Nests t'.workspace.graph (first.map (Slot.map k.past) ++
      .product k :: later.map (Slot.map k.past)) maxNesting ↔
        2 * first.countP Slot.waits < maxNesting :=
    (nests_withLeaf h.graph).trans (and_iff_left hnests)
  rw [flagsOf_insert_product hleafFlags, ← List.map_append, flagsOf_map hflags] at hrun
  have hpairs' : PairsAll t'.workspace.graph.part
      (first.map (Slot.map k.past) ++ later.map (Slot.map k.past)) := by
    intro id hid
    rw [← List.map_append] at hid
    rcases exists_of_product_mem_map hid with ⟨id', hid', rfl⟩
    rw [argumentText, hpart]
    exact hpairs id' hid'
  rw [assembledSource, ← assembled_map hpart, List.map_append, ← assembledSource] at hsource
  have hsame := (Regex.eq_of_compile hsource).2
  refine ⟨fun hdepth hrefuses => ?_, fun hdepth hrefuses => ?_, fun hdepth => ?_⟩
  · rw [hsame] at hrefuses
    rcases exists_compile_literal hleafPart hsource hpairs' hrefuses with ⟨r', hr'⟩
    refine ⟨r', ?_, ?_⟩
    · rw [hrun (hnests'.2 hdepth)]
      exact hr'
    · rw [(Regex.eq_of_compile hr').2, hsame]
  · rw [hsame] at hrefuses
    rcases compile_literal_eq_error hleafPart hpairs' hrefuses with ⟨cause, hcause⟩
    have houtcome := (congrArg Prod.fst (hrun (hnests'.2 hdepth))).trans hcause
    exact ⟨_, cause, houtcome⟩
  · rw [hdeep fun hnests => absurd (hnests'.1 hnests) (Nat.not_lt.2 hdepth)]

/-! ## Putting a literal among arguments -/

/-- An argument waits if its slot does. -/
theorem waits_classify {v : Argument (Chronicle σ)} {slot : Slot}
    (hrun : (b.classify v).after s = (.ok slot, s')) : slot.waits = v.waits := by
  have hproduct : ∀ m : Session (Chronicle σ) FragmentId,
      (Slot.product <$> m).after s = (.ok slot, s') → slot.waits = false := by
    intro m hm
    rw [after_map] at hm
    cases houtcome : (m.after s).1 with
    | error e =>
        rw [houtcome] at hm
        cases hm
    | ok id =>
        rw [houtcome] at hm
        obtain rfl := Except.ok.inj (Prod.mk.inj hm).1
        rfl
  cases v with
  | name text =>
      rw [classify, after_bind] at hrun
      cases houtcome : (b.resolveReference text).after s with
      | mk result s₁ =>
          rw [houtcome] at hrun
          cases result with
          | error e => cases hrun
          | ok id? => cases id? <;> cases hrun <;> rfl
  | upTo direction native? =>
      cases native? with
      | some native => exact hproduct _ hrun
      | none =>
          cases hrun
          rfl
  | native | fragment | textFunction | function | literal => exact hproduct _ hrun

/-- As many slots wait as arguments do. -/
theorem countP_waits {first : List Slot} (hpre : (pre.mapM b.classify).after s = (.ok first, s')) :
    first.countP Slot.waits = pre.countP Argument.waits := by
  induction pre generalizing s first with
  | nil =>
      cases hpre
      rfl
  | cons v pre ih =>
      rcases exists_of_after_cons hpre with ⟨slot, rest, s₁, hclassify, hrest, rfl⟩
      rw [List.countP_cons, List.countP_cons, ih hrest, waits_classify hclassify]

/-- The ways to put a literal among arguments. -/
inductive LiteralForm where
  /-- The literal itself. -/
  | value
  /-- A function that gives its text. -/
  | delayed
  /-- A fragment that has been made for it before. -/
  | fragment

/-- Compiles arguments with a literal among them. -/
def compileWith (b : Builder) (form : LiteralForm) (l : Literal) (pre post : List (Argument σ)) :
    Session σ Regex :=
  match form with
  | .value => b.compile (pre ++ .literal l :: post)
  | .delayed => b.compile (pre ++ .delayedText (fun _ => l.plainText) :: post)
  | .fragment => do
    let id ← b.addLiteral l
    b.compile (pre ++ .fragment id :: post)

/-- Arguments that are compiled, and a leaf for a literal that is resolved between them.  The arguments in
front of it have become the same, and those behind it have been made before the leaf. -/
theorem takesLiteral_of_leaf {v : Argument (Chronicle σ)} {r : Regex} {text : String}
    {first : List Slot} {s₁ u u₁ u₂ : SessionState (Chronicle σ)}
    (hargs : b.AreHeedless M (pre ++ post) s)
    (hpairs : ∀ slots t, ((pre ++ post).mapM b.classify).after s = (.ok slots, t) →
      PairsAll t.workspace.graph.part slots)
    (hcompile : (b.compile (pre ++ post)).after s = (.ok r, s'))
    (hpre : (pre.mapM b.classify).after s = (.ok first, s₁))
    (hpre' : (pre.mapM b.classify).after u = (.ok (first.map (Slot.map k.past)), u₁))
    (hv : (b.classify v).after u₁ = (.ok (.product k), u₂))
    (hleaf : s₁.WithLeaf M k (.ofSource (escapeLiteral text)) u₂)
    (hfragments : ∀ id, .fragment id ∈ post → id.index < k.index) :
    TakesLiteral r text (pre.countP Argument.waits) ((b.compile (pre ++ v :: post)).after u).1 := by
  rcases exists_slots_of_compile hcompile with ⟨slots, s₂, hslots⟩
  rcases exists_slots_of_append hslots with ⟨first', later, s₁', hpre₁, hpost, rfl⟩
  obtain ⟨hfirst, rfl⟩ := Prod.mk.inj (hpre.symm.trans hpre₁)
  obtain rfl := Except.ok.inj hfirst
  obtain ⟨hpath, hhas⟩ := hargs.path hslots
  rcases after_mapM_withLeaf (hargs.append_right hpre) hfragments hleaf hpost with
    ⟨t', hpost', ht'⟩
  rw [← countP_waits hpre]
  exact takesLiteral_of_withLeaf hslots (hpath.isSound hargs.sound).isClosed hhas
    (hpairs _ _ hslots) hcompile
    (after_mapM_append hpre' (after_mapM_cons hv hpost')) ht'

/-- The source of a literal is accepted under all flags that do not refuse its text.  Let a builder
compile some arguments, of which the functions do not notice a leaf that they have not been given
and in whose texts the parentheses match.  With a literal at any place among them they are compiled
under the same flags, again unless these refuse the text: then the pattern is invalid.  Before
either of them comes the error that the literal is copied too deep. -/
theorem literals_accepted (form : LiteralForm) (l : Literal) (text : String) (flags : Flags)
    {r : Regex} :
    ((∃ r, Regex.compile (escapeLiteral text) flags = .ok r) ↔ ¬ flags.Refuses text) ∧
    (s.workspace.IsSound → (∀ memory, M memory memory) → b.Admits (pre ++ post) s →
      (∀ make s₁, b.Calls make s₁ (pre ++ post) s → Obeys (fun _ _ => True) (make b) s₁) →
      (∀ v ∈ pre ++ post, ∀ make, v.function? = some make → IsHeedless M make) →
      (∀ slots s₁, ((pre ++ post).mapM b.classify).after s = (.ok slots, s₁) →
        PairsAll s₁.workspace.graph.part slots) →
      (b.compile (pre ++ post)).after s = (.ok r, s') →
      TakesLiteral r l.plainText (pre.countP Argument.waits)
        ((b.compileWith form l pre post).after s).1) := by
  refine ⟨Regex.exists_compile_escapeLiteral_iff text flags, ?_⟩
  intro hs hM hadmits hcalls hheedless hpairs hcompile
  have hargs : b.AreHeedless M (pre ++ post) s := ⟨hs, hadmits, hcalls, hheedless⟩
  rcases exists_slots_of_compile hcompile with ⟨slots, s₂, hslots⟩
  rcases exists_slots_of_append hslots with ⟨first, later, s₁, hpre, -, -⟩
  obtain ⟨-, hproducts₁⟩ := hargs.append_left.path hpre
  have hbehind := hargs.append_right hpre
  -- A literal that is made in its place comes behind the fragments in front of it.
  have hplace : ∀ v, (b.classify v).after s₁ =
      (.ok (.product (s₁.workspace.graph.addNative (.ofSource l.source)).1),
        s₁.withGraph (s₁.workspace.graph.addNative (.ofSource l.source)).2) →
      TakesLiteral r l.plainText (pre.countP Argument.waits)
        ((b.compile (pre ++ v :: post)).after s).1 := by
    intro v hv
    have hfirst : first.map (Slot.map (FragmentId.past
        (s₁.workspace.graph.addNative (.ofSource l.source)).1)) = first := by
      refine (List.map_congr_left fun slot hslot => ?_).trans (List.map_id' _)
      cases slot with
      | product id => exact congrArg Slot.product (FragmentId.past_of_lt (hproducts₁ id hslot))
      | dropped | forward => rfl
    refine takesLiteral_of_leaf hargs hpairs hcompile hpre (hfirst.symm ▸ hpre) hv ?_
      hbehind.admits.has
    exact .of_graph hbehind.sound (hM _)
      (Graph.withLeaf_addNative hbehind.sound.isClosed (.ofSource l.source))
  cases form with
  | value => exact hplace (.literal l) rfl
  | delayed => exact hplace (.delayedText fun _ => l.plainText) rfl
  | fragment =>
      have hleaf := SessionState.WithLeaf.of_graph hs (hM _)
        (Graph.withLeaf_adopt hs.isClosed (.ofSource l.source) b.registry)
      rcases after_mapM_withLeaf hargs.append_left
        (fun id hid => hadmits.has id (List.mem_append_left _ hid)) hleaf hpre with
        ⟨s₁', hpre', h₁⟩
      exact takesLiteral_of_leaf hargs hpairs hcompile hpre hpre' rfl h₁
        fun id hid => hadmits.has id (List.mem_append_right _ hid)

/-- A function that makes a leaf does not notice another one. -/
theorem isHeedless_native {σ : Type} (M : σ → σ → Prop) (native : NativePattern) :
    IsHeedless M fun b => b.resolveValue (.native native) := by
  intro b k pattern s s' _ h id t hrun
  cases hrun
  exact after_addNative h native

/-- The literal `.` is compiled under the flag `u` between the argument `(?<n>a)` and a function that
makes a leaf. -/
theorem literals_accepted_between :
    let s : SessionState (Chronicle Unit) := ((create none).after (Chronicle.start ())).2
    let b : Builder := ⟨⟨0⟩, some (Flags.ofList [.unicode])⟩
    let pre : List (Argument (Chronicle Unit)) := [.native (.ofSource "(?<n>a)")]
    let post : List (Argument (Chronicle Unit)) :=
      [.function fun b => b.resolveValue (.native (.ofSource "b"))]
    ∃ r s', (b.compile (pre ++ post)).after s = (.ok r, s') ∧
      ∃ r', ((b.compileWith .value (.text ".") pre post).after s).1 = .ok r' ∧
        r'.flags = r.flags := by
  intro s b pre post
  have hsound : s.workspace.IsSound := Obeys.isSound_create none ()
  have hcompile : ∃ r s', (b.compile (pre ++ post)).after s = (.ok r, s') := by
    have hok : ((b.compile (pre ++ post)).after s).1.isOk = true := by decide
    generalize (b.compile (pre ++ post)).after s = outcome at hok ⊢
    obtain ⟨result, s'⟩ := outcome
    cases result with
    | error e => cases hok
    | ok r => exact ⟨r, s', rfl⟩
  rcases hcompile with ⟨r, s', hcompile⟩
  refine ⟨r, s', hcompile, ?_⟩
  have hcalls : ∀ make t, b.Calls make t (pre ++ post) s →
      make = (fun b => b.resolveValue (.native (.ofSource "b"))) ∧ t.workspace.HasRegistry ⟨0⟩ := by
    intro make t hmake
    rcases hmake with hfirst | ⟨hclassify, hmake⟩
    · cases hfirst
    · cases hclassify
      obtain ⟨rfl, rfl⟩ := hmake.single
      exact ⟨rfl, by decide⟩
  have hadmits : b.Admits (pre ++ post) s := by
    refine ⟨by decide, by simp [pre, post], fun make t id t' hmake hrun => ?_⟩
    obtain ⟨rfl, -⟩ := hcalls make t hmake
    cases hrun
    exact Graph.has_add_self _ _
  have hobeys : ∀ make t, b.Calls make t (pre ++ post) s →
      Obeys (fun _ _ => True) (make b) t := by
    intro make t hmake
    obtain ⟨rfl, -⟩ := hcalls make t hmake
    exact .leaf _
  have hheedless : ∀ v ∈ pre ++ post, ∀ make, v.function? = some make → IsHeedless Eq make := by
    intro v hv make hmake
    rcases List.mem_pair.1 hv with rfl | rfl
    · cases hmake
    · obtain rfl := Option.some.inj hmake
      exact isHeedless_native Eq _
  have hpairs : ∀ slots t, ((pre ++ post).mapM b.classify).after s = (.ok slots, t) →
      PairsAll t.workspace.graph.part slots := by
    intro slots t hslots id hid
    cases hslots
    rcases List.mem_pair.1 hid with hfirst | hlater
    · obtain rfl := Slot.product.inj hfirst
      decide
    · obtain rfl := Slot.product.inj hlater
      decide
  have htakes := (literals_accepted .value (.text ".") "" ∅).2 hsound (fun memory => Eq.refl memory)
    hadmits hobeys hheedless hpairs hcompile
  exact htakes.accepted (by decide) fun hrefuses => absurd hrefuses.2 (by decide)

/-- The source of a hyphen is an invalid pattern under the flag `u`, and so is that of arguments
with a hyphen, which without it are compiled. -/
theorem literals_refused :
    let b : Builder := ⟨⟨0⟩, some (Flags.ofList [.unicode])⟩
    let s : SessionState Unit := ⟨Workspace.empty, ()⟩
    Regex.compile (escapeLiteral "-") (Flags.ofList [.unicode]) =
        .error (.invalidPattern "\\-" .invalidEscape) ∧
      (∃ r s', (b.compile [.native (.ofSource "a")]).after s = (.ok r, s')) ∧
      ∃ s', (b.compile [.native (.ofSource "a"), .literal (.text "-")]).after s =
        (.error (.invalidPattern "(a)(\\-)" .invalidEscape), s') :=
  ⟨rfl, ⟨_, _, rfl⟩, _, rfl⟩

end Builder

end RegexComposition

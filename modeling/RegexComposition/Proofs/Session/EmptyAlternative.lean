import RegexComposition.Proofs.Fragment.EmptyAlternative
import RegexComposition.Proofs.Fragment.Resemblance
import RegexComposition.Proofs.Session.Attachment
import RegexComposition.Proofs.Session.Resolution

/-!
# Alternatives made of nothing

An unknown name is passed over, and so is a forward reference with nothing behind it.  A fragment
gets an alternative even if nothing else is among the arguments: then the alternative is empty.
Only without any arguments the fragment stays as it is.

Main results:

- `Argument.Vanishes`: what produces nothing among arguments of the same sort.
- `Session.producesNothing_iff`: arguments produce nothing if and only if all of them are such ones.
- `Graph.withEmptyAlternative`: a graph in which a fragment has got an empty alternative.
- `Graph.source_withEmptyAlternative`: the source of the fragment there.
- `Session.addAlternative_nothing`: what arguments that produce nothing add to a fragment.
-/

namespace RegexComposition

variable {σ : Type}

/-! ## Arguments that produce nothing -/

/-- The argument is a name that is unknown, carries no suffix and is no anchor, or a forward
reference without a pattern. -/
def Argument.Vanishes (names : Registry) : Argument σ → Prop
  | .name text => names.resolve? text = none ∧ Builder.anchor? text = none ∧
    Suffix.split? text.toList = none
  | .upTo _ pattern => pattern = none
  | _ => False

namespace Builder

open Session

variable {b : Builder} {v : Argument σ} {args : List (Argument σ)}
variable {s s' t : SessionState σ} {slot : Slot} {slots : List Slot} {g : Graph}

/-- An argument that is resolved into no fragment vanishes, and changes nothing. -/
theorem Resolves.vanishes (h : b.Resolves v s slot s') (hslot : ∀ id, slot ≠ .product id) :
    v.Vanishes (s.workspace.names b.registry) ∧ s' = s := by
  cases h with
  | function | fragment | leaf | registered | modified | anchor => exact absurd rfl (hslot _)
  | forward => exact ⟨rfl, rfl⟩
  | dropped hresolve hanchor hsuffix => exact ⟨⟨hresolve, hanchor, hsuffix⟩, rfl⟩

theorem exists_resolves_of_vanishes (h : v.Vanishes (s.workspace.names b.registry)) :
    ∃ slot, b.Resolves v s slot s ∧ ∀ id, slot ≠ .product id := by
  cases v with
  | name text => exact ⟨.dropped, .dropped h.1 h.2.1 h.2.2, nofun⟩
  | upTo direction pattern =>
      obtain rfl := h
      exact ⟨.forward direction, .forward direction s, nofun⟩
  | native | fragment | textFunction | function | literal => exact h.elim

/-- So do all arguments of a list. -/
theorem ResolvesAll.vanish (h : b.ResolvesAll args s slots t)
    (hslots : ∀ slot ∈ slots, ∀ id, slot ≠ .product id) :
    (∀ v ∈ args, v.Vanishes (s.workspace.names b.registry)) ∧ t = s := by
  induction h with
  | nil s => exact ⟨nofun, rfl⟩
  | cons hfirst _ ih =>
      obtain ⟨hvanishes, rfl⟩ := hfirst.vanishes (hslots _ List.mem_cons_self)
      obtain ⟨hrest, rfl⟩ := ih fun slot hslot => hslots slot (List.mem_cons_of_mem _ hslot)
      exact ⟨List.forall_mem_cons.2 ⟨hvanishes, hrest⟩, rfl⟩

theorem exists_resolvesAll_of_vanish
    (h : ∀ v ∈ args, v.Vanishes (s.workspace.names b.registry)) :
    ∃ slots, b.ResolvesAll args s slots s ∧ ∀ slot ∈ slots, ∀ id, slot ≠ .product id := by
  induction args with
  | nil => exact ⟨[], .nil s, nofun⟩
  | cons v args ih =>
      obtain ⟨slot, hfirst, hslot⟩ := exists_resolves_of_vanishes (h v List.mem_cons_self)
      obtain ⟨slots, hrest, hslots⟩ := ih fun w hw => h w (List.mem_cons_of_mem _ hw)
      exact ⟨slot :: slots, .cons hfirst hrest, List.forall_mem_cons.2 ⟨hslot, hslots⟩⟩

/-- Forward references alone are assembled into nothing. -/
theorem assemble_of_ne_product (h : ∀ slot ∈ slots, ∀ id, slot ≠ .product id) (g : Graph) :
    assemble slots g = (List.replicate slots.length none, g) := by
  induction slots with
  | nil => rfl
  | cons slot slots ih =>
      have hrest := ih fun slot hslot => h slot (List.mem_cons_of_mem _ hslot)
      cases slot with
      | product id => exact absurd rfl (h _ List.mem_cons_self id)
      | dropped =>
          rw [assemble, hrest]
          rfl
      | forward direction =>
          rw [assemble_forward_of_eq (by simp [hrest]), hrest]
          rfl

theorem ne_product_of_assemble (h : ∀ product ∈ (assemble slots g).1, product = none) :
    ∀ slot ∈ slots, ∀ id, slot ≠ .product id := by
  induction slots with
  | nil => nofun
  | cons slot slots ih =>
      obtain ⟨product, hproducts, -⟩ := exists_assemble_cons slot slots g
      rw [hproducts, List.forall_mem_cons] at h
      refine List.forall_mem_cons.2 ⟨?_, ih h.2⟩
      rintro id rfl
      have hproduct : product = some id := (List.cons.inj hproducts).1.symm
      rw [h.1] at hproduct
      cases hproduct

/-- Arguments of a list produce nothing if and only if all of them vanish, and then nothing has been
changed. -/
theorem products_eq_none_iff {products : List (Option FragmentId)} :
    ((b.products args).after s = (.ok products, t) ∧ ∀ product ∈ products, product = none) ↔
      (∀ v ∈ args, v.Vanishes (s.workspace.names b.registry)) ∧
        products = List.replicate args.length none ∧ t = s := by
  have hvanish : (∀ v ∈ args, v.Vanishes (s.workspace.names b.registry)) →
      (b.products args).after s = (.ok (List.replicate args.length none), s) := by
    intro h
    obtain ⟨slots, hslots, hne⟩ := exists_resolvesAll_of_vanish h
    have hafter := mapM_classify_eq_ok_iff.2 hslots
    rw [after_products, hafter]
    dsimp only
    rw [assemble_of_ne_product hne, length_slots hafter]
    rfl
  constructor
  · rintro ⟨hproducts, hnone⟩
    have hargs : ∀ v ∈ args, v.Vanishes (s.workspace.names b.registry) := by
      rcases exists_of_after_bind hproducts with ⟨slots, s₁, hslots, hassemble⟩
      cases hassemble
      exact ((mapM_classify_eq_ok_iff.1 hslots).vanish (ne_product_of_assemble hnone)).1
    rw [hvanish hargs] at hproducts
    cases hproducts
    exact ⟨hargs, rfl, rfl⟩
  · rintro ⟨hargs, rfl, rfl⟩
    exact ⟨hvanish hargs, fun _ => List.eq_of_mem_replicate⟩

/-- The combination of such arguments is a composite without children. -/
theorem after_combine_of_vanish (h : ∀ v ∈ args, v.Vanishes (s.workspace.names b.registry)) :
    (b.combine args).after s = (.ok (s.workspace.graph.combined b.registry []).1,
      s.withGraph (s.workspace.graph.combined b.registry []).2) := by
  have hnone : (List.replicate args.length (none : Option FragmentId)).filterMap id = [] :=
    List.filterMap_replicate_of_none rfl
  rw [after_combine, (products_eq_none_iff.2 ⟨h, rfl, rfl⟩).1]
  dsimp only
  rw [hnone]

end Builder

/-! ## Empty alternatives -/

namespace Graph

variable {g g' : Graph} {id next other : FragmentId} {levels : Nat} {flags : Flags}

/-- A fragment is not nested deeper where it has no other links than before. -/
theorem nestsWithin_of_links (hg : g.IsClosed)
    (hlinks : ∀ id, g.Has id → ∀ next ∈ (g.node id).links, next ∈ (g'.node id).links)
    (h : g'.NestsWithin levels id) (hid : g.Has id) : g.NestsWithin levels id := by
  induction levels generalizing id with
  | zero => exact h.elim
  | succ levels ih =>
      exact fun next hnext => ih (h next (hlinks id hid next hnext)) (hg id next hnext)

/-- The graph in which a fragment has got a new composite without children as an alternative. -/
def withEmptyAlternative (g : Graph) (r : RegistryId) (id : FragmentId) : Graph :=
  (g.combined r []).2.pushAlternative id (g.combined r []).1

/-- A new composite without children leaves all other nodes alone. -/
theorem node_combined_nil (hg : g.IsClosed) (r : RegistryId) (hother : g.Has other) :
    (g.combined r []).2.node other = g.node other := by
  have hclosed : (g.addComposite []).2.IsClosed := isClosed_addComposite hg nofun
  have hself := has_addComposite_self g []
  have hapart : ¬ (g.addComposite []).2.Reaches (g.addComposite []).1 other := by
    intro hreaches
    obtain rfl := eq_of_reaches_leaf (isPlain_addComposite g []).links_eq hreaches
    exact not_has_addComposite g [] hother
  rw [combined, node_adopt hclosed hself, if_neg hapart]
  exact node_add_of_lt hother

/-- The fragment has one alternative more, and all other nodes are as before. -/
theorem node_withEmptyAlternative (hg : g.IsClosed) (r : RegistryId) (hid : g.Has id)
    (hother : g.Has other) :
    (g.withEmptyAlternative r id).node other =
      if other = id then { g.node id with alternatives := (g.node id).alternatives ++ [⟨g.size⟩] }
      else g.node other := by
  have hbranch : other ≠ (g.combined r []).1 := by
    rintro rfl
    exact not_has_addComposite g [] hother
  have hparent :
      ((g.combined r []).2.setParent id (g.combined r []).1).node other = g.node other := by
    rw [setParent, node_modify_of_ne hbranch, node_combined_nil hg r hother]
  rw [withEmptyAlternative, pushAlternative]
  split
  · next heq =>
      subst heq
      have hhas : ((g.combined r []).2.setParent other (g.combined r []).1).Has other :=
        has_modify.2 (has_combined hid r [])
      rw [node_modify_self hhas, hparent]
      rfl
  · next hne => rw [node_modify_of_ne hne, hparent]

/-- The alternative is a plain composite without children. -/
theorem isPlain_withEmptyAlternative (r : RegistryId) (hid : g.Has id) :
    (g.withEmptyAlternative r id).IsPlain ⟨g.size⟩ (.composite []) := by
  have hne : (⟨g.size⟩ : FragmentId) ≠ id := by
    rintro rfl
    exact Nat.lt_irrefl _ hid
  have hplain := (isPlain_combined g r []).of_keeps (keeps_setParent _ id (g.combined r []).1)
  have hnode : (g.withEmptyAlternative r id).node ⟨g.size⟩ =
      ((g.combined r []).2.setParent id (g.combined r []).1).node ⟨g.size⟩ := node_modify_of_ne hne
  refine ⟨has_pushAlternative.2 (has_combined_self g r []), ?_, ?_, ?_, ?_⟩
  all_goals rw [hnode]
  · exact hplain.kind_eq
  · exact hplain.alternatives_eq
  · exact hplain.modifiers_eq
  · exact hplain.flags_eq

/-- What does not contain the fragment is compiled as before. -/
theorem preserves_withEmptyAlternative (hg : g.IsClosed) (r : RegistryId) (hid : g.Has id)
    (hnext : g.Has next) (hapart : ¬ g.Reaches next id) :
    g.Preserves (g.withEmptyAlternative r id) next := by
  intro other hreaches
  have hne : other ≠ id := by
    rintro rfl
    exact hapart hreaches
  rw [node_withEmptyAlternative hg r hid (has_of_reaches hg hnext hreaches), if_neg hne]
  exact ⟨rfl, rfl, rfl, rfl⟩

theorem mem_links_withEmptyAlternative (hg : g.IsClosed) (r : RegistryId) (hid : g.Has id)
    (hother : g.Has other) (hnext : next ∈ (g.node other).links) :
    next ∈ ((g.withEmptyAlternative r id).node other).links := by
  rw [node_withEmptyAlternative hg r hid hother]
  split
  · next heq =>
      subst heq
      simp only [Node.links, List.mem_append] at hnext ⊢
      exact hnext.imp_left Or.inl
  · exact hnext

/-- The fragment is nested as deep as before if there is room for the alternative. -/
theorem nestsWithin_withEmptyAlternative (hg : g.IsClosed) (r : RegistryId) (hid : g.Has id) :
    (g.withEmptyAlternative r id).NestsWithin (levels + 2) id ↔ g.NestsWithin (levels + 2) id := by
  constructor
  · intro h
    exact nestsWithin_of_links hg
      (fun other hother next => mem_links_withEmptyAlternative hg r hid hother) h hid
  · intro h next hnext
    rw [node_withEmptyAlternative hg r hid hid, if_pos rfl] at hnext
    have hold : next ∈ (g.node id).links ∨ next = ⟨g.size⟩ := by
      simp only [Node.links, List.mem_append, List.mem_singleton] at hnext ⊢
      exact or_right_comm.1 hnext
    rcases hold with hlink | rfl
    · have hpreserves := preserves_withEmptyAlternative hg r hid (hg id next hlink)
        (not_reaches_of_nestsWithin h hlink)
      exact hpreserves.nestsWithin_iff.2 (h next hlink)
    · exact (isPlain_withEmptyAlternative r hid).nestsWithin (List.forall_mem_nil _)

/-- The fragment is compiled with an empty branch. -/
theorem emission_withEmptyAlternative (hg : g.IsClosed) (r : RegistryId) (hid : g.Has id)
    (hnests : g.NestsWithin (levels + 2) id) :
    (g.withEmptyAlternative r id).emission (levels + 2) id =
      (g.node id).modifiers.apply (Emission.alternation
        ((g.node id).kind.emission (g.emission (levels + 1)))
        ((g.node id).alternatives.map (g.emission (levels + 1)) ++ [[]])) := by
  have hlink : ∀ next ∈ (g.node id).links,
      (g.withEmptyAlternative r id).emission (levels + 1) next = g.emission (levels + 1) next := by
    intro next hnext
    have hpreserves := preserves_withEmptyAlternative hg r hid (hg id next hnext)
      (not_reaches_of_nestsWithin hnests hnext)
    exact (hpreserves.emission (hpreserves.nestsWithin_iff.2 (hnests next hnext))).1
  have hown : (g.node id).kind.emission ((g.withEmptyAlternative r id).emission (levels + 1)) =
      (g.node id).kind.emission (g.emission (levels + 1)) :=
    FragmentKind.emission_congr fun next hnext => hlink next (List.mem_append_right _ hnext)
  have hbranches := List.map_congr_left fun next hnext => hlink next (List.mem_append_left _ hnext)
  have hempty : (g.withEmptyAlternative r id).emission (levels + 1) ⟨g.size⟩ = [] :=
    (isPlain_withEmptyAlternative r hid).emission levels
  rw [emission, node_withEmptyAlternative hg r hid hid, if_pos rfl]
  simp only [List.map_append, List.map_cons, List.map_nil, hown, hbranches, hempty]

/-- The source of the fragment has an empty branch more.  If there was no source, there still is
none. -/
theorem source_withEmptyAlternative (hg : g.IsClosed) (r : RegistryId) (hid : g.Has id) :
    (g.withEmptyAlternative r id).source id =
      (fun _ => String.ofList (Emission.resolve ((g.node id).modifiers.apply (Emission.alternation
        ((g.node id).kind.emission (g.emission maxNesting))
        ((g.node id).alternatives.map (g.emission maxNesting) ++ [[]]))))) <$> g.source id := by
  have hiff : (g.withEmptyAlternative r id).NestsWithin (maxNesting + 1) id ↔
      g.NestsWithin (maxNesting + 1) id := nestsWithin_withEmptyAlternative hg r hid
  by_cases hnests : g.NestsWithin (maxNesting + 1) id
  · have hemission : (g.withEmptyAlternative r id).emission (maxNesting + 1) id = _ :=
      emission_withEmptyAlternative hg r hid hnests
    rw [source_of_nestsWithin (hiff.2 hnests), source_of_nestsWithin hnests, hemission]
    rfl
  · rw [source, source, emit_eq_error hnests, emit_eq_error (mt hiff.1 hnests)]
    rfl

/-- So it is not what it was. -/
theorem source_withEmptyAlternative_ne (hg : g.IsClosed) (r : RegistryId) (hid : g.Has id)
    {text : String} (hsource : g.source id = .ok text) :
    (g.withEmptyAlternative r id).source id ≠ .ok text := by
  have hnests := nestsWithin_of_source hsource
  rw [source_withEmptyAlternative hg r hid, source_of_nestsWithin hnests]
  rw [source_of_nestsWithin hnests] at hsource
  intro hsame
  have heq := (Except.ok.inj hsame).trans (Except.ok.inj hsource).symm
  exact Emission.resolve_alternation_ne _ _ _ (String.ofList_injective heq)

/-- Patterns are accepted as before. -/
theorem composable_withEmptyAlternative (hg : g.IsClosed) (r : RegistryId) (hid : g.Has id)
    (hother : g.Has other) (h : g.Composable flags other) :
    (g.withEmptyAlternative r id).Composable flags other := by
  have hsame : ∀ next, g.Has next →
      ((g.withEmptyAlternative r id).node next).kind = (g.node next).kind ∧
        ((g.withEmptyAlternative r id).node next).modifiers = (g.node next).modifiers := by
    intro next hnext
    rw [node_withEmptyAlternative hg r hid hnext]
    split
    · next heq => exact heq ▸ ⟨rfl, rfl⟩
    · exact ⟨rfl, rfl⟩
  obtain ⟨hkind, hmodifiers⟩ := hsame other hother
  refine ⟨?_, fun ahead ending direction hupTo => ?_, ?_, ?_⟩
  · rw [hkind]
    exact h.native
  · rw [hkind] at hupTo
    have hending : ending ∈ (g.node other).links := by
      rw [Node.links, hupTo]
      simp [FragmentKind.parts]
    rw [(hsame ending (hg other ending hending)).1]
    exact h.ending ahead ending direction hupTo
  · rw [hmodifiers]
    exact h.negated
  · rw [hmodifiers]
    exact h.quantifier

/-- Below the fragment there is the alternative and what was there before. -/
theorem reaches_withEmptyAlternative (hg : g.IsClosed) (r : RegistryId) (hid : g.Has id)
    (h : (g.withEmptyAlternative r id).Reaches id other) :
    other = ⟨g.size⟩ ∨ g.Reaches id other := by
  rcases reaches_of_pushAlternative (has_combined hid r []) h with hold | ⟨-, hbranch⟩
  · exact Or.inr ((reaches_combined hg (List.forall_mem_nil _) r hid).1 hold)
  · exact Or.inl (eq_of_reaches_leaf (isPlain_combined g r []).links_eq hbranch)

/-- If the patterns are accepted, the source of the fragment is accepted as well, and it matches
every text. -/
theorem isMatch_withEmptyAlternative (hg : g.IsClosed) (r : RegistryId) (hid : g.Has id)
    (hnests : g.NestsWithin (maxNesting + 1) id)
    (hbelow : ∀ other, g.Reaches id other → g.Composable flags other) :
    ∃ source regex, (g.withEmptyAlternative r id).source id = .ok source ∧
      Regex.compile source flags = .ok regex ∧ ∀ text, regex.isMatch text = true := by
  have hplain := isPlain_withEmptyAlternative (g := g) r hid
  have hbranch : ⟨g.size⟩ ∈ ((g.withEmptyAlternative r id).node id).alternatives := by
    rw [node_withEmptyAlternative hg r hid hid, if_pos rfl]
    exact List.mem_append_right _ List.mem_cons_self
  refine isMatch_of_empty_alternative ((nestsWithin_withEmptyAlternative hg r hid).2 hnests)
    (fun other hother => ?_) hbranch hplain
  rcases reaches_withEmptyAlternative hg r hid hother with rfl | hold
  · refine ⟨fun pattern hkind => ?_, fun ahead ending direction hkind => ?_, ?_, ?_⟩
    · rw [hplain.kind_eq] at hkind
      cases hkind
    · rw [hplain.kind_eq] at hkind
      cases hkind
    · rw [hplain.modifiers_eq]
      rfl
    · rw [hplain.modifiers_eq]
      nofun
  · exact composable_withEmptyAlternative hg r hid (has_of_reaches hg hid hold) (hbelow other hold)

end Graph

/-! ## Additions to a fragment -/

/-- The names that an addition to the fragment can refer to: those in its registry as long as that
is in use. -/
def Workspace.namesFor (w : Workspace) (id : FragmentId) : Registry :=
  match (w.graph.node id).registry.filter w.isLive with
  | some r => w.names r
  | none => Registry.empty

namespace Session

variable {s s' : SessionState σ} {id : FragmentId} {args : List (Argument σ)} {b : Builder}

/-- The builder for additions to a fragment looks names up in its registry. -/
theorem names_builderFor (hb : (builderFor id).after s = (.ok b, s')) :
    s'.workspace.names b.registry = s.workspace.namesFor id := by
  rw [after_builderFor] at hb
  cases hregistry : (s.workspace.graph.node id).registry.filter s.workspace.isLive with
  | some r =>
      rw [hregistry] at hb
      cases hb
      rw [Workspace.namesFor, hregistry]
      exact (s.workspace.extends_acquire r).names r
  | none =>
      rw [hregistry] at hb
      cases hb
      rw [Workspace.namesFor, hregistry]
      refine (s.workspace.names_addRegistry _).trans (Workspace.names_of_not_hasRegistry ?_)
      simp [Workspace.HasRegistry, Workspace.addRegistry]

/-- If the arguments are added to the fragment, none of them becomes a fragment. -/
def ProducesNothing (id : FragmentId) (args : List (Argument σ)) (s : SessionState σ) : Prop :=
  ∃ b s' products t, (builderFor id).after s = (.ok b, s') ∧
    (b.products args).after s' = (.ok products, t) ∧ ∀ product ∈ products, product = none

/-- This depends on the names that the fragment can refer to. -/
theorem producesNothing_iff :
    ProducesNothing id args s ↔ ∀ v ∈ args, v.Vanishes (s.workspace.namesFor id) := by
  constructor
  · rintro ⟨b, s', products, t, hb, hproducts, hnone⟩
    rw [← names_builderFor hb]
    exact (Builder.products_eq_none_iff.1 ⟨hproducts, hnone⟩).1
  · intro h
    obtain ⟨b, w, hb, -, -, -⟩ := exists_builderFor id s
    rw [← names_builderFor hb] at h
    obtain ⟨hproducts, hnone⟩ := Builder.products_eq_none_iff.2 ⟨h, rfl, rfl⟩
    exact ⟨b, _, _, _, hb, hproducts, hnone⟩

end Session

/-- The fragment has got an empty alternative.  Nothing else has been changed, but the fragment has
another source, which matches every text if it is accepted. -/
structure SessionState.AddsEmptyAlternative (s : SessionState σ) (id : FragmentId)
    (s' : SessionState σ) : Prop where
  memory : s'.memory = s.memory
  names : ∀ r, s'.workspace.names r = s.workspace.names r
  others : ∀ other, s.workspace.graph.Has other → other ≠ id →
    s'.workspace.graph.node other = s.workspace.graph.node other
  node : s'.workspace.graph.node id = { s.workspace.graph.node id with
    alternatives := (s.workspace.graph.node id).alternatives ++ [⟨s.workspace.graph.size⟩] }
  branch : s'.workspace.graph.IsPlain ⟨s.workspace.graph.size⟩ (.composite [])
  source : s'.workspace.graph.source id =
    (fun _ => String.ofList (Emission.resolve ((s.workspace.graph.node id).modifiers.apply
      (Emission.alternation
        ((s.workspace.graph.node id).kind.emission (s.workspace.graph.emission maxNesting))
        ((s.workspace.graph.node id).alternatives.map (s.workspace.graph.emission maxNesting) ++
          [[]]))))) <$> s.workspace.graph.source id
  source_ne : ∀ text, s.workspace.graph.source id = .ok text →
    s'.workspace.graph.source id ≠ .ok text
  isMatch : ∀ text flags, s.workspace.graph.source id = .ok text →
    (∀ other, s.workspace.graph.Reaches id other → s.workspace.graph.Composable flags other) →
      ∃ source r, s'.workspace.graph.source id = .ok source ∧
        Regex.compile source flags = .ok r ∧ ∀ text, r.isMatch text = true

theorem SessionState.addsEmptyAlternative {s : SessionState σ} {w : Workspace} {id : FragmentId}
    (hg : s.workspace.graph.IsClosed) (hid : s.workspace.graph.Has id) (r : RegistryId)
    (hgraph : w.graph = s.workspace.graph) (hextends : s.workspace.Extends w) :
    s.AddsEmptyAlternative id (s.withWorkspace (w.branched r id [])) := by
  have hnew : (w.branched r id []).graph = s.workspace.graph.withEmptyAlternative r id := by
    rw [Workspace.graph_branched, hgraph]
    rfl
  refine ⟨rfl, fun r' => ?_, ?_, ?_, ?_, ?_, ?_, ?_⟩
  all_goals rw [workspace_withWorkspace]
  · rw [Workspace.names_branched]
    exact hextends.names r'
  all_goals rw [hnew]
  · intro other hother hne
    rw [Graph.node_withEmptyAlternative hg r hid hother, if_neg hne]
  · rw [Graph.node_withEmptyAlternative hg r hid hid, if_pos rfl]
  · exact Graph.isPlain_withEmptyAlternative r hid
  · exact Graph.source_withEmptyAlternative hg r hid
  · exact fun text => Graph.source_withEmptyAlternative_ne hg r hid
  · exact fun text flags hsource =>
      Graph.isMatch_withEmptyAlternative hg r hid (Graph.nestsWithin_of_source hsource)

namespace Session

variable {s : SessionState σ} {id : FragmentId} {args : List (Argument σ)}

/-- Let none of the arguments become a fragment.  Without any arguments nothing is changed when they
are added.  Otherwise an empty alternative is added, whether the fragment belongs to a registry or
not. -/
theorem addAlternative_nothing (hg : s.workspace.graph.IsClosed) (hid : s.workspace.graph.Has id)
    (hnothing : ProducesNothing id args s) :
    ∃ s', (addAlternative id args).after s = (.ok (), s') ∧ (args = [] → s' = s) ∧
      (args ≠ [] → s.AddsEmptyAlternative id s') := by
  by_cases hargs : args = []
  · subst hargs
    exact ⟨s, rfl, fun _ => rfl, fun hne => absurd rfl hne⟩
  · obtain ⟨b, w, hb, hgraph, hextends, -⟩ := exists_builderFor id s
    have hvanish := producesNothing_iff.1 hnothing
    rw [← names_builderFor hb] at hvanish
    have hafter : (addAlternative id args).after s =
        (.ok (), s.withWorkspace (w.branched b.registry id [])) := by
      rw [after_addAlternative id hargs hb, Builder.after_combine_of_vanish hvanish]
      rfl
    exact ⟨_, hafter, fun hnil => absurd hnil hargs,
      fun _ => SessionState.addsEmptyAlternative hg hid b.registry hgraph hextends⟩

/-- A session with a single leaf that belongs to no registry. -/
def loneLeaf : SessionState Unit := ⟨⟨⟨#[{ kind := .native (.ofSource "a") }]⟩, #[]⟩, ()⟩

theorem vanishes_loneLeaf :
    (.name "ghost" : Argument Unit).Vanishes (loneLeaf.workspace.namesFor ⟨0⟩) :=
  ⟨by decide +kernel, rfl, by decide⟩

/-- An unknown name and a forward reference behind it add an empty alternative. -/
theorem addAlternative_nothing_loneLeaf : ∃ s',
    (addAlternative ⟨0⟩ [.name "ghost", .upTo .ahead none]).after loneLeaf = (.ok (), s') ∧
      loneLeaf.AddsEmptyAlternative ⟨0⟩ s' := by
  have hnothing : ProducesNothing ⟨0⟩ [.name "ghost", .upTo .ahead none] loneLeaf := by
    rw [producesNothing_iff]
    simp only [List.forall_mem_cons]
    exact ⟨vanishes_loneLeaf, rfl, nofun⟩
  obtain ⟨s', hafter, -, hadds⟩ := addAlternative_nothing (by decide) (by decide) hnothing
  exact ⟨s', hafter, hadds (List.cons_ne_nil _ _)⟩

/-- With an unknown name as an alternative the pattern `a` has another source and matches the empty
text. -/
theorem addAlternative_unknown_name :
    let before := loneLeaf.workspace.graph
    let after := ((addAlternative ⟨0⟩ [.name "ghost"]).after loneLeaf).2.workspace.graph
    ProducesNothing ⟨0⟩ [.name "ghost"] loneLeaf ∧
      (before.node ⟨0⟩).alternatives = [] ∧ (after.node ⟨0⟩).alternatives = [⟨1⟩] ∧
      (before.source ⟨0⟩).toOption = some "a" ∧ (after.source ⟨0⟩).toOption = some "((a)|())" ∧
      (before.regex ⟨0⟩ none none).toOption.map (·.isMatch "") = some false ∧
      (after.regex ⟨0⟩ none none).toOption.map (·.isMatch "") = some true := by
  refine ⟨?_, by decide +kernel⟩
  rw [producesNothing_iff]
  simp only [List.forall_mem_cons]
  exact ⟨vanishes_loneLeaf, nofun⟩

end Session

end RegexComposition

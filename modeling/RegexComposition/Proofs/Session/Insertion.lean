import RegexComposition.Proofs.Fragment.Insertion
import RegexComposition.Proofs.Fragment.Resemblance
import RegexComposition.Proofs.Pattern.SingleCharacter
import RegexComposition.Proofs.Session.Conduct
import RegexComposition.Proofs.Session.Slots

/-!
# Inserting forward references

A forward reference that is inserted among arguments repeats the arguments behind it.  The flags
stay the same, but the copies are nested deeper, and the names in them are there twice.

Main results:

- `Builder.Nests`: how deep the fragments of arguments are nested.
- `Builder.Assembles.emission_eq`: what the fragments of arguments are compiled into.
- `Builder.after_compile_of_slots`: what compiling arguments comes to.
- `Builder.compile_insert_upTo`: when the arguments are compiled with a forward reference as well.
- `Builder.compile_insert_upTo_refused`: this need not be so.
-/

namespace RegexComposition

/-! ## What resolved arguments are compiled into -/

namespace Graph

variable {g g' : Graph} {levels : Nat} {id : FragmentId} {slots : List Builder.Slot}

/-- What a fragment is compiled into where it is a part of another one. -/
def part (g : Graph) (id : FragmentId) : Emission := g.emission maxNesting id

/-- The flags of the leaves of a fragment where it is a part of another one. -/
def partFlags (g : Graph) (id : FragmentId) : List Flag :=
  (g.leafFlags maxNesting id).toOption.getD []

theorem Preserves.emission_eq_part (h : g.Preserves g' id) (hnests : g'.NestsWithin levels id)
    (hlevels : levels ≤ maxNesting) : g'.emission levels id = g.part id := by
  obtain ⟨hemission, hnests'⟩ := h.emission hnests
  rw [hemission, Graph.part, emission_of_le hnests' hlevels]

theorem Preserves.leafFlags_eq_partFlags (h : g.Preserves g' id) (hnests : g'.NestsWithin levels id)
    (hlevels : levels ≤ maxNesting) : g'.leafFlags levels id = .ok (g.partFlags id) := by
  rcases exists_leafFlags (h.emission hnests).2 with ⟨fs, hfs⟩
  rw [h.leafFlags, hfs levels (Nat.le_refl _), Graph.partFlags, hfs maxNesting hlevels]
  rfl

end Graph

namespace Builder

variable {g g' : Graph} {levels : Nat} {slots : List Slot}

/-- The flags of the fragments of resolved arguments. -/
def flagsOf (g : Graph) : List Slot → List Flag
  | [] => []
  | .product id :: rest => g.partFlags id ++ flagsOf g rest
  | .dropped :: rest | .forward _ :: rest => flagsOf g rest

/-- The fragments of resolved arguments are nested within the given number of levels.  A forward
reference brings what is behind it two levels down. -/
def Nests (g : Graph) : List Slot → (levels : Nat) → Prop
  | [], _ => True
  | .product id :: rest, levels => g.NestsWithin levels id ∧ Nests g rest levels
  | .dropped :: rest, levels => Nests g rest levels
  | .forward _ :: rest, levels => Nests g rest (levels - 2)

/-- A forward reference brings no flags. -/
theorem flagsOf_insert (g : Graph) (pre post : List Slot) (direction : UntilDirection) :
    flagsOf g (pre ++ .forward direction :: post) = flagsOf g (pre ++ post) := by
  induction pre with
  | nil => rfl
  | cons slot pre ih => cases slot <;> simp [flagsOf, ih]

/-- There is nothing to compile exactly if there are no fragments. -/
theorem assembled_eq_nil_iff {part : FragmentId → Emission} :
    assembled part slots = [] ↔ (assemble slots g).1.filterMap id = [] := by
  induction slots with
  | nil => simp [assembled, assemble]
  | cons slot rest ih =>
      cases slot with
      | product id =>
          have henclose : Emission.enclose (part id) ≠ [] := by
            intro hnil
            have hhead := Emission.head?_enclose (part id)
            rw [hnil] at hhead
            cases hhead
          simp [assembled, assemble, henclose]
      | dropped => simpa [assembled, assemble] using ih
      | forward direction =>
          by_cases hrest : assembled part rest = []
          · rw [assemble_forward_of_eq (ih.1 hrest), assembled, if_pos hrest]
            simpa using ih.1 hrest
          · rw [assemble_forward_of_ne (mt ih.2 hrest) direction rfl, assembled_forward hrest]
            simp [hrest]

/-- Resolved arguments of a graph that are assembled, and a graph in which this has been done. -/
structure Assembles (g : Graph) (slots : List Slot) (g' : Graph) : Prop where
  isClosed : g.IsClosed
  has : ∀ id, .product id ∈ slots → g.Has id
  keeps : (assemble slots g).2.Keeps g'

namespace Assembles

variable {slot : Slot} {rest : List Slot} {direction : UntilDirection}

/-- What follows the first argument has been assembled before. -/
theorem tail (h : Assembles g (slot :: rest) g') : Assembles g rest g' := by
  rcases exists_assemble_cons slot rest g with ⟨-, -, hkeeps⟩
  exact ⟨h.isClosed, fun id hid => h.has id (List.mem_cons_of_mem _ hid), hkeeps.trans h.keeps⟩

theorem preserves {id : FragmentId} (h : Assembles g slots g') (hid : .product id ∈ slots) :
    g.Preserves g' id :=
  ((Graph.extends_assemble slots g).keeps.trans h.keeps).preserves h.isClosed (h.has id hid)

/-- If a forward reference is not nested too deep, the fragments behind it are not. -/
theorem exists_levels {upTo ahead ending : FragmentId} {children : List FragmentId}
    (hupTo : g'.IsPlain upTo (.upTo ahead ending direction))
    (hahead : g'.IsPlain ahead (.composite children)) (hnests : g'.NestsWithin levels upTo) :
    ∃ n, levels = n + 2 ∧ ∀ child ∈ children, g'.NestsWithin n child := by
  cases levels with
  | zero => exact hnests.elim
  | succ levels =>
      have hnext : g'.NestsWithin levels ahead := by
        refine hnests ahead ?_
        rw [Node.links, hupTo.kind_eq]
        exact List.mem_append_right _ List.mem_cons_self
      cases levels with
      | zero => exact hnext.elim
      | succ n =>
          refine ⟨n, rfl, fun child hchild => hnext child ?_⟩
          rw [Node.links, hahead.kind_eq]
          exact List.mem_append_right _ hchild

/-- A forward reference is nested two levels deeper than the fragments behind it. -/
theorem nestsWithin_forward_iff {upTo ahead ending : FragmentId} {children : List FragmentId}
    (hupTo : g'.IsPlain upTo (.upTo ahead ending direction))
    (hahead : g'.IsPlain ahead (.composite children)) (hending : g'.IsPlain ending .expressionEnd)
    (hchildren : children ≠ []) :
    g'.NestsWithin levels upTo ↔ ∀ child ∈ children, g'.NestsWithin (levels - 2) child := by
  constructor
  · intro hnests
    rcases exists_levels hupTo hahead hnests with ⟨n, rfl, hall⟩
    exact hall
  · intro hall
    rcases List.exists_mem_of_ne_nil _ hchildren with ⟨child, hchild⟩
    have hlevels : ∃ n, levels = n + 2 := by
      refine Nat.exists_eq_add_of_le' ?_
      by_contra hfew
      have hnone := hall child hchild
      rw [Nat.sub_eq_zero_of_le (by omega)] at hnone
      exact hnone
    rcases hlevels with ⟨n, rfl⟩
    refine hupTo.nestsWithin fun next hnext => ?_
    rcases List.mem_cons.1 hnext with rfl | hnext
    · exact hahead.nestsWithin hall
    · obtain rfl := List.mem_singleton.1 hnext
      exact hending.nestsWithin nofun

/-- How deep the fragments of the arguments are nested once they are assembled. -/
theorem nests_iff (h : Assembles g slots g') :
    (∀ id, some id ∈ (assemble slots g).1 → g'.NestsWithin levels id) ↔ Nests g slots levels := by
  induction slots generalizing levels with
  | nil => simp [assemble, Nests]
  | cons slot rest ih =>
      have ih : ∀ n, (∀ id, some id ∈ (assemble rest g).1 → g'.NestsWithin n id) ↔
          Nests g rest n := fun _ => ih h.tail
      cases slot with
      | product first =>
          rw [Nests, ← ih, ← (h.preserves List.mem_cons_self).nestsWithin_iff]
          simp [assemble, or_imp, forall_and]
      | dropped =>
          rw [Nests, ← ih]
          simp [assemble]
      | forward direction =>
          rw [Nests, ← ih]
          by_cases hrest : (assemble rest g).1.filterMap id = []
          · have hnone : ∀ id, some id ∉ (assemble rest g).1 := fun id hid =>
              Option.some_ne_none id (List.filterMap_eq_nil_iff.1 hrest (some id) hid)
            rw [assemble_forward_of_eq hrest]
            simp [hnone]
          · rcases exists_assemble_forward hrest h.keeps with
              ⟨upTo, ahead, ending, heq, hupTo, hahead, hending⟩
            have hdeep : g'.NestsWithin levels upTo ↔ ∀ child ∈ (assemble rest g).1.filterMap id,
                g'.NestsWithin (levels - 2) child :=
              nestsWithin_forward_iff hupTo hahead hending hrest
            simp only [heq, List.mem_cons, Option.some.injEq, or_imp, forall_and, forall_eq, hdeep,
              List.mem_filterMap, id_eq, exists_eq_right]
            exact and_iff_left_of_imp fun hchildren id hid =>
              (hchildren id hid).mono (Nat.sub_le _ _)

/-- The fragments of the arguments are compiled into what the arguments are compiled into. -/
theorem emission_eq (h : Assembles g slots g') (hlevels : levels ≤ maxNesting)
    (hnests : ∀ id, some id ∈ (assemble slots g).1 → g'.NestsWithin levels id) :
    Emission.sequence (((assemble slots g).1.filterMap id).map (g'.emission levels)) =
      assembled g.part slots := by
  have cons : ∀ (levels : Nat) (id' : FragmentId) (products : List (Option FragmentId)),
      Emission.sequence (((some id' :: products).filterMap id).map (g'.emission levels)) =
        Emission.enclose (g'.emission levels id') ++
          Emission.sequence ((products.filterMap id).map (g'.emission levels)) :=
    fun _ _ _ => by simp [Emission.sequence]
  -- What is behind a reference is emitted a second time, with fewer levels left.
  induction slots generalizing levels with
  | nil => rfl
  | cons slot rest ih =>
      cases slot with
      | product first =>
          have hfirst := (h.preserves List.mem_cons_self).emission_eq_part
            (hnests first List.mem_cons_self) hlevels
          have hrest := ih h.tail hlevels fun id hid => hnests id (List.mem_cons_of_mem _ hid)
          have heq : (assemble (.product first :: rest) g).1 = some first :: (assemble rest g).1 :=
            rfl
          rw [heq, cons, hfirst, hrest, assembled]
      | dropped => exact ih h.tail hlevels fun id hid => hnests id (List.mem_cons_of_mem _ hid)
      | forward direction =>
          by_cases hrest : (assemble rest g).1.filterMap id = []
          · have heq := assemble_forward_of_eq hrest direction
            rw [heq, List.filterMap_cons_none rfl, hrest, assembled,
              if_pos (assembled_eq_nil_iff.2 hrest)]
            rfl
          · rcases exists_assemble_forward hrest h.keeps with
              ⟨upTo, ahead, ending, heq, hupTo, hahead, hending⟩
            rw [heq] at hnests ⊢
            have hlater := ih h.tail hlevels fun id hid => hnests id (List.mem_cons_of_mem _ hid)
            rcases exists_levels hupTo hahead (hnests upTo List.mem_cons_self) with
              ⟨n, rfl, hchildren⟩
            have hcopied := @ih n h.tail (by omega) fun id hid => hchildren id
              (List.mem_filterMap.2 ⟨some id, hid, rfl⟩)
            have hending' : g'.emission (n + 1) ending = [.endMark] := hending.emission n
            have hupTo' : g'.emission (n + 2) upTo =
                Emission.upTo direction (assembled g.part rest) [.endMark] := by
              rw [hupTo.emission, FragmentKind.emission, hahead.emission, hending',
                FragmentKind.emission, hcopied]
            rw [cons, hupTo', hlater, assembled_forward (mt assembled_eq_nil_iff.1 hrest),
              Emission.forward]

/-- The flags of the arguments count once. -/
theorem exists_mapM_leafFlags (h : Assembles g slots g') (hlevels : levels ≤ maxNesting)
    (hnests : ∀ id, some id ∈ (assemble slots g).1 → g'.NestsWithin levels id) :
    ∃ fss, ((assemble slots g).1.filterMap id).mapM (g'.leafFlags levels) = .ok fss ∧
      ∀ flags : Flags, flags.insertAll fss.flatten = flags.insertAll (flagsOf g slots) := by
  have cons : ∀ {levels : Nat} {id : FragmentId} {ids : List FragmentId} {fs : List Flag}
      {fss : List (List Flag)}, g'.leafFlags levels id = .ok fs →
        ids.mapM (g'.leafFlags levels) = .ok fss →
          (id :: ids).mapM (g'.leafFlags levels) = .ok (fs :: fss) := by
    intro levels id ids fs fss hfs hfss
    rw [List.mapM_cons, hfs, hfss]
    rfl
  induction slots generalizing levels with
  | nil => exact ⟨[], rfl, fun _ => rfl⟩
  | cons slot rest ih =>
      cases slot with
      | product first =>
          have hfirst := (h.preserves List.mem_cons_self).leafFlags_eq_partFlags
            (hnests first List.mem_cons_self) hlevels
          rcases ih h.tail hlevels fun id hid => hnests id (List.mem_cons_of_mem _ hid) with
            ⟨fss, hfss, hflags⟩
          refine ⟨_, cons hfirst hfss, fun flags => ?_⟩
          rw [List.flatten_cons, Flags.insertAll_append, hflags, flagsOf, Flags.insertAll_append]
      | dropped => exact ih h.tail hlevels fun id hid => hnests id (List.mem_cons_of_mem _ hid)
      | forward direction =>
          by_cases hrest : (assemble rest g).1.filterMap id = []
          · have heq := assemble_forward_of_eq hrest direction
            rw [heq] at hnests ⊢
            exact ih h.tail hlevels fun id hid => hnests id (List.mem_cons_of_mem _ hid)
          · rcases exists_assemble_forward hrest h.keeps with
              ⟨upTo, ahead, ending, heq, hupTo, hahead, -⟩
            rw [heq] at hnests ⊢
            rcases ih h.tail hlevels fun id hid => hnests id (List.mem_cons_of_mem _ hid) with
              ⟨fss, hfss, hflags⟩
            rcases exists_levels hupTo hahead (hnests upTo List.mem_cons_self) with
              ⟨n, rfl, hchildren⟩
            rcases @ih n h.tail (by omega) fun id hid => hchildren id
              (List.mem_filterMap.2 ⟨some id, hid, rfl⟩) with ⟨fss', hfss', hflags'⟩
            -- The copy has the flags a second time, which a set does not show.
            have hupTo' := hupTo.leafFlags_upTo (hahead.leafFlags_composite hfss')
            refine ⟨_, cons hupTo' hfss, fun flags => ?_⟩
            rw [List.flatten_cons, Flags.insertAll_append, hflags', hflags,
              ← Flags.insertAll_append, Flags.insertAll_twice, flagsOf]

variable {root : FragmentId} {default : Option Flags}

/-- The composite of the fragments is nested one level deeper than they are. -/
theorem nestsWithin_root_iff (h : Assembles g slots g')
    (hroot : g'.IsPlain root (.composite ((assemble slots g).1.filterMap id))) :
    g'.NestsWithin (levels + 1) root ↔ Nests g slots levels := by
  rw [← h.nests_iff]
  constructor
  · intro hnests id hid
    refine hnests id ?_
    rw [Node.links, hroot.kind_eq]
    exact List.mem_append_right _ (List.mem_filterMap.2 ⟨some id, hid, rfl⟩)
  · refine fun hproducts => hroot.nestsWithin fun next hnext => ?_
    rcases List.mem_filterMap.1 hnext with ⟨product, hproduct, rfl⟩
    exact hproducts next hproduct

/-- The composite of the fragments has the flags of the arguments, if it is not nested too deep. -/
theorem resolveFlags_eq (h : Assembles g slots g')
    (hroot : g'.IsPlain root (.composite ((assemble slots g).1.filterMap id)))
    (hdepth : Nests g slots maxNesting) (default : Option Flags) :
    g'.resolveFlags root none default =
      .ok (default.getD (Flags.ofList (flagsOf g slots))).withGlobal := by
  rcases h.exists_mapM_leafFlags (Nat.le_refl _) (h.nests_iff.2 hdepth) with ⟨fss, hfss, hflags⟩
  rw [Graph.resolveFlags, hroot.flags_eq]
  cases default with
  | some flags => rfl
  | none =>
      have hsame : Flags.ofList fss.flatten = Flags.ofList (flagsOf g slots) := hflags Flags.empty
      rw [hroot.leafFlags_composite hfss, Option.getD_none, ← hsame]
      rfl

/-- The composite of the fragments has the source of the arguments, if it is not nested too deep. -/
theorem regex_eq (h : Assembles g slots g')
    (hroot : g'.IsPlain root (.composite ((assemble slots g).1.filterMap id)))
    (hdepth : Nests g slots maxNesting) (default : Option Flags) :
    g'.regex root none default = Regex.compile (assembledSource g.part slots)
      (default.getD (Flags.ofList (flagsOf g slots))).withGlobal := by
  have hnests := (h.nestsWithin_root_iff hroot).2 hdepth
  have hproducts := h.nests_iff.2 hdepth
  have hsource : g'.source root = .ok (assembledSource g.part slots) := by
    rw [Graph.source_of_nestsWithin hnests, hroot.emission, FragmentKind.emission,
      h.emission_eq (Nat.le_refl _) hproducts, assembledSource]
  exact Graph.regex_of_source hsource (h.resolveFlags_eq hroot hdepth default)

/-- Otherwise it is refused for its depth. -/
theorem regex_eq_error (h : Assembles g slots g')
    (hroot : g'.IsPlain root (.composite ((assemble slots g).1.filterMap id)))
    (hdepth : ¬ Nests g slots maxNesting) (default : Option Flags) :
    g'.regex root none default = .error (.nestingTooDeep maxNesting) := by
  rw [Graph.regex, Graph.source, Graph.emit_eq_error (mt (h.nestsWithin_root_iff hroot).1 hdepth)]
  rfl

end Assembles

end Builder

/-! ## The session -/

namespace Builder

open Session Chronicle

variable {σ : Type} {b : Builder} {args pre post : List (Argument σ)} {s s' : SessionState σ}
variable {slots : List Slot} {r : Regex}

/-- Arguments that have been resolved are combined into the composite of their fragments. -/
theorem exists_combine_of_slots (hslots : (args.mapM b.classify).after s = (.ok slots, s'))
    (hclosed : s'.workspace.graph.IsClosed)
    (hhas : ∀ id, .product id ∈ slots → s'.workspace.graph.Has id) : ∃ root s'',
    (b.combine args).after s = (.ok root, s'') ∧
    Assembles s'.workspace.graph slots s''.workspace.graph ∧
    s''.workspace.graph.IsPlain root
      (.composite ((assemble slots s'.workspace.graph).1.filterMap id)) := by
  have hproducts : (b.products args).after s = (.ok (assemble slots s'.workspace.graph).1,
      s'.withGraph (assemble slots s'.workspace.graph).2) := by
    rw [after_products, hslots]
  rcases exists_combine_of_products hproducts with ⟨root, s'', hcombine, hkeeps, hroot⟩
  exact ⟨root, s'', hcombine, ⟨hclosed, hhas, hkeeps⟩, hroot⟩

/-- Arguments that have been resolved are compiled, unless they are nested too deep. -/
theorem after_compile_of_slots (hslots : (args.mapM b.classify).after s = (.ok slots, s'))
    (hclosed : s'.workspace.graph.IsClosed)
    (hhas : ∀ id, .product id ∈ slots → s'.workspace.graph.Has id) : ∃ s'',
    (Nests s'.workspace.graph slots maxNesting → (b.compile args).after s =
      (Regex.compile (assembledSource s'.workspace.graph.part slots)
        (b.flags.getD (Flags.ofList (flagsOf s'.workspace.graph slots))).withGlobal, s'')) ∧
    (¬ Nests s'.workspace.graph slots maxNesting →
      (b.compile args).after s = (.error (.nestingTooDeep maxNesting), s'')) := by
  rcases exists_combine_of_slots hslots hclosed hhas with
    ⟨root, s'', hcombine, hassembles, hroot⟩
  rw [after_compile_of_combine hcombine]
  exact ⟨s'', fun hnests => congrArg (·, _) (hassembles.regex_eq hroot hnests b.flags),
    fun hdeep => congrArg (·, _) (hassembles.regex_eq_error hroot hdeep b.flags)⟩

/-- A forward reference that is inserted among arguments waits, and the others are resolved as
without it. -/
theorem after_classify_insert {first later : List Slot} {s₁ : SessionState σ}
    (hpre : (pre.mapM b.classify).after s = (.ok first, s₁))
    (hpost : (post.mapM b.classify).after s₁ = (.ok later, s')) (direction : UntilDirection) :
    ((pre ++ .upTo direction none :: post).mapM b.classify).after s =
      (.ok (first ++ .forward direction :: later), s') :=
  after_mapM_append hpre (after_mapM_cons rfl hpost)

/-- What is compiled has been resolved. -/
theorem exists_slots_of_compile (hcompile : (b.compile args).after s = (.ok r, s')) :
    ∃ slots s₁, (args.mapM b.classify).after s = (.ok slots, s₁) := by
  rcases exists_of_after_bind hcompile with ⟨root, s₁, hcombine, -⟩
  rcases exists_of_after_bind hcombine with ⟨products, s₂, hproducts, -⟩
  rcases exists_of_after_bind hproducts with ⟨slots, s₃, hslots, -⟩
  exact ⟨slots, s₃, hslots⟩

end Builder

namespace Builder

open Session

variable {σ : Type} {b : Builder} {pre post : List (Argument (Chronicle σ))}
variable {s s' : SessionState (Chronicle σ)} {r : Regex}

/-- Let a builder compile some arguments in whose texts the parentheses match, and insert a forward
reference among them.  If no group behind the reference has a name, the arguments are compiled under
the same flags; otherwise the copy of a group has the name of the group, which is an error.  Before
either of them comes the error that the copies are nested too deep. -/
theorem compile_insert_upTo (hs : s.workspace.IsSound) (hadmits : b.Admits (pre ++ post) s)
    (hcalls : ∀ make s₁, b.Calls make s₁ (pre ++ post) s → Obeys (fun _ _ => True) (make b) s₁)
    (hpairs : ∀ slots s₁, ((pre ++ post).mapM b.classify).after s = (.ok slots, s₁) →
      PairsAll s₁.workspace.graph.part slots)
    (hcompile : (b.compile (pre ++ post)).after s = (.ok r, s')) (direction : UntilDirection) :
    ∃ first later s₁ s₂ s'',
      (pre.mapM b.classify).after s = (.ok first, s₁) ∧
      (post.mapM b.classify).after s₁ = (.ok later, s₂) ∧
      (Nests s₂.workspace.graph (first ++ .forward direction :: later) maxNesting →
        (NamesNone s₂.workspace.graph.part later → ∃ r',
          (b.compile (pre ++ .upTo direction none :: post)).after s = (.ok r', s'') ∧
          r'.flags = r.flags) ∧
        (¬ NamesNone s₂.workspace.graph.part later →
          (b.compile (pre ++ .upTo direction none :: post)).after s =
            (.error (.invalidPattern (assembledSource s₂.workspace.graph.part
              (first ++ .forward direction :: later)) .duplicateGroupName), s''))) ∧
      (¬ Nests s₂.workspace.graph (first ++ .forward direction :: later) maxNesting →
        (b.compile (pre ++ .upTo direction none :: post)).after s =
          (.error (.nestingTooDeep maxNesting), s'')) := by
  rcases exists_slots_of_compile hcompile with ⟨slots, s₂, hslots⟩
  rcases exists_slots_of_append hslots with ⟨first, later, s₁, hpre, hpost, rfl⟩
  obtain ⟨hpath, hproducts⟩ := path_mapM_classify hs hadmits fun make s₁ hmake hbefore =>
    (hcalls make s₁ hmake).path (hbefore.isSound hs)
  rw [hslots] at hpath
  have hclosed := (hpath.isSound hs).isClosed
  have hhas := hproducts _ s₂ hslots
  have hslots' := after_classify_insert hpre hpost direction
  have hhas' : ∀ id, .product id ∈ first ++ .forward direction :: later →
      s₂.workspace.graph.Has id := fun id hid => hhas id (by simpa using hid)
  rcases after_compile_of_slots hslots' hclosed hhas' with ⟨s'', hrun, hdeep⟩
  have hsource : Regex.compile (assembledSource s₂.workspace.graph.part (first ++ later))
      (b.flags.getD (Flags.ofList (flagsOf s₂.workspace.graph (first ++ later)))).withGlobal =
        .ok r := by
    rcases after_compile_of_slots hslots hclosed hhas with ⟨s₃, hrun₃, hdeep₃⟩
    by_cases hnests : Nests s₂.workspace.graph (first ++ later) maxNesting
    · rw [hrun₃ hnests] at hcompile
      exact (Prod.mk.inj hcompile).1
    · rw [hdeep₃ hnests] at hcompile
      cases hcompile
  have hflags := (Regex.eq_of_compile hsource).2
  refine ⟨first, later, s₁, s₂, s'', hpre, hpost,
    fun hnests => ⟨fun hnames => ?_, fun hnames => ?_⟩, hdeep⟩
  · rcases exists_compile_forward hsource (hpairs _ s₂ hslots) hnames direction with
      ⟨r', hcompile'⟩
    refine ⟨r', ?_, ?_⟩
    · rw [hrun hnests, flagsOf_insert, hcompile']
    · rw [(Regex.eq_of_compile hcompile').2, hflags]
  · rw [hrun hnests, flagsOf_insert, compile_forward_eq_error hsource (hpairs _ s₂ hslots) hnames]

/-- Between the arguments `(?<n>a)` and `b` a forward reference is compiled. -/
theorem compile_insert_upTo_between :
    let s : SessionState (Chronicle Unit) := ((create none).after (Chronicle.start ())).2
    ∃ r r' s' s'',
      (Builder.compile ⟨⟨0⟩, none⟩ [.native (.ofSource "(?<n>a)"),
        .native (.ofSource "b")]).after s = (.ok r, s') ∧
      (Builder.compile ⟨⟨0⟩, none⟩ [.native (.ofSource "(?<n>a)"), .upTo .ahead none,
        .native (.ofSource "b")]).after s = (.ok r', s'') ∧
      r'.flags = r.flags := by
  intro s
  let pre : List (Argument (Chronicle Unit)) := [.native (.ofSource "(?<n>a)")]
  let post : List (Argument (Chronicle Unit)) := [.native (.ofSource "b")]
  have hsound : s.workspace.IsSound :=
    ((Obeys.create none : Obeys (fun _ _ => True) _ _).path Workspace.isSound_empty).isSound
      Workspace.isSound_empty
  have hplain : ∀ v ∈ pre ++ post, v.IsPlain := by simp [pre, post, Argument.IsPlain]
  have hadmits : Builder.Admits ⟨⟨0⟩, none⟩ (pre ++ post) s :=
    .of_forall (by decide) hplain (by simp [pre, post])
  have hpairs : ∀ slots s₁, ((pre ++ post).mapM (classify ⟨⟨0⟩, none⟩)).after s = (.ok slots, s₁) →
      PairsAll s₁.workspace.graph.part slots := by
    intro slots s₁ hslots id hid
    cases hslots
    rcases List.mem_pair.1 hid with hfirst | hlater
    · obtain rfl := Slot.product.inj hfirst
      decide
    · obtain rfl := Slot.product.inj hlater
      decide
  have hcompile : ∃ r s', (Builder.compile ⟨⟨0⟩, none⟩ (pre ++ post)).after s = (.ok r, s') := by
    have hok : ((Builder.compile ⟨⟨0⟩, none⟩ (pre ++ post)).after s).1.isOk = true := by
      decide
    generalize (Builder.compile ⟨⟨0⟩, none⟩ (pre ++ post)).after s = outcome at hok ⊢
    obtain ⟨result, s'⟩ := outcome
    cases result with
    | error e => cases hok
    | ok r => exact ⟨r, s', rfl⟩
  rcases hcompile with ⟨r, s', hcompile⟩
  rcases compile_insert_upTo hsound hadmits (fun _ _ hmake => .of_calls hmake hplain) hpairs hcompile
    .ahead with ⟨first, later, s₁, s₂, s'', hfirst, hlater, hinsert, -⟩
  cases hfirst
  cases hlater
  have hleaf : ∀ (g : Graph) (id : FragmentId) (levels : Nat), (g.node id).links = [] →
      g.NestsWithin (levels + 1) id := fun g id levels hlinks next hnext => by
    rw [hlinks] at hnext
    cases hnext
  have hcompiles := (hinsert ⟨hleaf _ _ 511 rfl, hleaf _ _ 509 rfl, trivial⟩).1 fun id hid => by
    obtain rfl := Slot.product.inj (List.mem_singleton.1 hid)
    decide
  rcases hcompiles with ⟨r', hcompile', hflags⟩
  exact ⟨r, r', s', s'', hcompile, hcompile', hflags⟩

/-- Compiles, perhaps with a forward reference between them, two fragments of which the first one
opens a group by its quantifier and the second one closes it. -/
def compileUnmatched (between : List (Argument σ)) : Session σ Regex := do
  let opening ← onGraph (·.addNative (.ofSource "a"))
  setQuantifier opening "("
  let closing ← onGraph (·.addNative (.ofSource "b"))
  setQuantifier closing ")"
  Builder.compile ⟨⟨0⟩, none⟩ (.fragment opening :: (between ++ [.fragment closing]))

/-- A leaf inside of the given number of composites. -/
def tower : (height : Nat) → Session σ FragmentId
  | 0 => onGraph (·.addNative (.ofSource "a"))
  | height + 1 => do
    let id ← tower height
    onGraph (·.addComposite [id])

/-- Each composite is one level more, and all of them share one pair of parentheses. -/
theorem exists_after_tower {s : SessionState σ} (hclosed : s.workspace.graph.IsClosed)
    (height : Nat) : ∃ id g, (tower height).after s = (.ok id, s.withGraph g) ∧ g.IsClosed ∧
      g.Has id ∧ (∀ levels, g.NestsWithin levels id ↔ height < levels) ∧
      ∀ levels, height ≤ levels →
        Emission.enclose (g.emission (levels + 1) id) = Emission.ofChars ['(', 'a', ')'] := by
  induction height with
  | zero =>
      have hplain := Graph.isPlain_add s.workspace.graph (.native (.ofSource "a"))
      refine ⟨_, _, rfl, Graph.isClosed_add hclosed (by simp [FragmentKind.parts]),
        Graph.has_add_self _ _, fun levels => ?_, fun levels _ => ?_⟩
      · cases levels with
        | zero => exact iff_of_false not_false (Nat.lt_irrefl 0)
        | succ n => exact iff_of_true (hplain.nestsWithin (by rintro _ ⟨⟩)) (Nat.succ_pos n)
      · exact congrArg Emission.enclose (hplain.emission levels)
  | succ height ih =>
      rcases ih with ⟨id, g, hafter, hg, hhas, hnests, hemission⟩
      have hpreserves := (Graph.keeps_addComposite g [id]).preserves hg hhas
      have hplain := Graph.isPlain_addComposite g [id]
      refine ⟨(g.addComposite [id]).1, (g.addComposite [id]).2, ?_,
        Graph.isClosed_addComposite hg (by simpa using hhas), Graph.has_addComposite_self _ _,
        fun levels => ?_, fun levels hlevels => ?_⟩
      · rw [tower, after_bind, hafter]
        rfl
      · cases levels with
        | zero => exact iff_of_false not_false (Nat.not_lt_zero _)
        | succ n =>
            rw [Nat.add_lt_add_iff_right, ← hnests, ← hpreserves.nestsWithin_iff]
            refine ⟨fun h => h id ?_, fun h => hplain.nestsWithin (by simpa [FragmentKind.parts])⟩
            rw [Node.links, hplain.kind_eq]
            exact List.mem_append_right _ (List.mem_singleton_self id)
      · -- A child that starts with a parenthesis is not put in another pair.
        obtain ⟨n, rfl⟩ := Nat.exists_eq_add_of_le' (Nat.le_trans (Nat.succ_pos height) hlevels)
        have hheight : height ≤ n := Nat.le_of_succ_le_succ hlevels
        have hinside := (hpreserves.emission (hpreserves.nestsWithin_iff.2
          ((hnests (n + 1)).2 (Nat.lt_succ_of_le hheight)))).1
        rw [hplain.emission, FragmentKind.emission, List.map_singleton, hinside,
          Emission.sequence, List.flatMap_singleton, hemission n hheight]
        rfl

/-- At the limit a fragment is compiled, but not with a forward reference in front of it. -/
theorem after_compile_tower {s : SessionState σ} (hclosed : s.workspace.graph.IsClosed)
    {registry : RegistryId} {height : Nat} (hheight : height + 1 = maxNesting) : ∃ r s' s'',
    (tower height >>= fun id => Builder.compile ⟨registry, some ∅⟩ [.fragment id]).after s =
      (.ok r, s') ∧
    (tower height >>= fun id =>
      Builder.compile ⟨registry, some ∅⟩ [.upTo .ahead none, .fragment id]).after s =
        (.error (.nestingTooDeep maxNesting), s'') := by
  rcases exists_after_tower hclosed height with ⟨id, g, hafter, hg, hhas, hnests, hemission⟩
  let b : Builder := ⟨registry, some ∅⟩
  have hslots : (([.fragment id] : List (Argument σ)).mapM b.classify).after (s.withGraph g) =
      (.ok [.product id], s.withGraph g) := rfl
  have hslots' : (([.upTo .ahead none, .fragment id] : List (Argument σ)).mapM b.classify).after
      (s.withGraph g) = (.ok [.forward .ahead, .product id], s.withGraph g) := rfl
  have hhas' : ∀ {slots : List Slot}, (∀ id', .product id' ∈ slots → id' = id) →
      ∀ id', .product id' ∈ slots → g.Has id' := fun hids id' hid => hids id' hid ▸ hhas
  rcases after_compile_of_slots hslots hg (hhas' (by simp)) with ⟨s', hrun, -⟩
  rcases after_compile_of_slots hslots' hg (hhas' (by simp)) with ⟨s'', -, hdeep⟩
  have htext : assembledSource g.part [.product id] = "(a)" := by
    rw [assembledSource, assembled, assembled, Graph.part, ← hheight,
      hemission height (Nat.le_refl _)]
    rfl
  have hcompile : ∃ r, Regex.compile "(a)" (∅ : Flags).withGlobal = .ok r := ⟨_, rfl⟩
  rcases hcompile with ⟨r, hcompile⟩
  refine ⟨r, s', s'', ?_, ?_⟩
  · rw [after_bind, hafter]
    refine (hrun ⟨(hnests _).2 (by omega), trivial⟩).trans (congrArg (·, s') ?_)
    exact (congrArg (Regex.compile · _) htext).trans hcompile
  · rw [after_bind, hafter]
    refine hdeep fun h => ?_
    have hlevels := (hnests _).1 h.1
    omega

/-- A forward reference may break what compiles.  It copies the named group of `(?<n>a)`; it copies
a parenthesis that a quantifier has left unmatched; and it brings a fragment that is nested as deep
as possible below the limit. -/
theorem compile_insert_upTo_refused :
    let b : Builder := ⟨⟨0⟩, some ∅⟩
    let s : SessionState Unit := ⟨Workspace.empty, ()⟩
    (∃ r s' s'', (b.compile [.native (.ofSource "(?<n>a)")]).after s = (.ok r, s') ∧
      (b.compile [.upTo .ahead none, .native (.ofSource "(?<n>a)")]).after s =
        (.error (.invalidPattern "(.*?(?=(?<n>a)))(?<n>a)" .duplicateGroupName), s'')) ∧
    (∃ r s' s'', (compileUnmatched []).after s = (.ok r, s') ∧
      (compileUnmatched [.upTo .ahead none]).after s =
        (.error (.invalidPattern "(a)((.*?(?=(b))))(b))" .unbalancedParenthesis), s'')) ∧
    (∃ r s' s'', (tower 511 >>= fun id => b.compile [.fragment id]).after s = (.ok r, s') ∧
      (tower 511 >>= fun id => b.compile [.upTo .ahead none, .fragment id]).after s =
        (.error (.nestingTooDeep maxNesting), s'')) :=
  ⟨⟨_, _, _, rfl, rfl⟩, ⟨_, _, _, rfl, rfl⟩,
    after_compile_tower Workspace.isSound_empty.isClosed rfl⟩

end Builder

end RegexComposition

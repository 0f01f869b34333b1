import RegexComposition.Proofs.Fragment.Acceptance
import RegexComposition.Proofs.Fragment.Endings

/-!
# Ways down from a fragment

A fragment leads down to its children, to its alternatives and, if it is a forward reference, to
what it refers to and to its end.  It is refused exactly if some way down is longer than the limit,
and the search for the flags of its leaves is refused for the same fragments.

Main results:

- `Graph.IsDescent`: the ways down from a fragment.
- `Graph.nestsWithin_iff_forall_descent`: the depth of a fragment is the length of its longest way
  down.
- `Graph.nestsWithin_of_leafFlags`: the search for flags goes as deep as compiling does.
- `Graph.refused_iff_exists_descent`: which fragments are refused.
-/

namespace RegexComposition

/-- If a kind has no flags, one of its parts has none. -/
theorem FragmentKind.exists_of_leafFlags_eq_error
    {part : FragmentId → Except CompositionError (List Flag)} {kind : FragmentKind}
    {e : CompositionError} (h : kind.leafFlags part = .error e) :
    ∃ id ∈ kind.parts, part id = .error e := by
  cases kind with
  | native | expressionEnd => cases h
  | composite children =>
      rw [leafFlags, map_eq_pure_bind] at h
      rcases of_bind_eq_error h with hchildren | ⟨fss, -, h⟩
      · exact exists_of_mapM_eq_error hchildren
      · cases h
  | upTo ahead ending direction => exact ⟨ahead, List.mem_cons_self, h⟩

/-- Computations that succeed together succeed for each member. -/
theorem exists_of_mapM_eq_ok {ε α β : Type} {f : α → Except ε β} {as : List α} {bs : List β}
    (h : as.mapM f = .ok bs) {a : α} (ha : a ∈ as) : ∃ b, f a = .ok b := by
  rcases List.mem_iff_getElem.1 ha with ⟨i, hi, rfl⟩
  have hall := List.forall₂_iff_get.1 (forall₂_of_mapM h)
  exact ⟨_, hall.2 i hi (hall.1 ▸ hi)⟩

namespace Graph

variable {g : Graph} {levels : Nat} {id : FragmentId}

/-! ## The longest way down -/

/-- A way down from a fragment: it leads to the first node, and each node leads to the next one. -/
def IsDescent (g : Graph) (id : FragmentId) (path : List FragmentId) : Prop :=
  (id :: path).IsChain fun id next => next ∈ (g.node id).links

theorem isDescent_nil (g : Graph) (id : FragmentId) : g.IsDescent id [] := .singleton id

theorem isDescent_cons {next : FragmentId} {path : List FragmentId} :
    g.IsDescent id (next :: path) ↔ next ∈ (g.node id).links ∧ g.IsDescent next path :=
  List.isChain_cons_cons

/-- The levels are enough exactly if they are more than the steps of any way down. -/
theorem nestsWithin_iff_forall_descent :
    g.NestsWithin levels id ↔ ∀ path, g.IsDescent id path → path.length < levels := by
  induction levels generalizing id with
  | zero =>
      constructor
      · intro h
        exact h.elim
      · intro h
        exact absurd (h [] (isDescent_nil g id)) (Nat.not_lt_zero _)
  | succ levels ih =>
      constructor
      · intro h path hpath
        cases path with
        | nil => exact Nat.succ_pos levels
        | cons next path =>
            obtain ⟨hnext, hrest⟩ := isDescent_cons.1 hpath
            exact Nat.succ_lt_succ (ih.1 (h next hnext) path hrest)
      · intro h next hnext
        apply ih.2
        intro path hpath
        exact Nat.lt_of_succ_lt_succ (h (next :: path) (isDescent_cons.2 ⟨hnext, hpath⟩))

theorem not_nestsWithin_iff_exists_descent :
    ¬ g.NestsWithin (levels + 1) id ↔ ∃ path, g.IsDescent id path ∧ levels < path.length := by
  rw [nestsWithin_iff_forall_descent]
  push Not
  simp only [Nat.succ_le_iff]

/-! ## The two searches -/

/-- The search for flags fails only for the depth of the fragment. -/
theorem eq_of_leafFlags_eq_error {e : CompositionError} (h : g.leafFlags levels id = .error e) :
    e = .nestingTooDeep maxNesting := by
  induction levels generalizing id with
  | zero => exact (Except.error.inj h).symm
  | succ levels ih =>
      rw [leafFlags_succ] at h
      rcases of_bind_eq_error h with hown | ⟨own, -, h⟩
      · rcases FragmentKind.exists_of_leafFlags_eq_error hown with ⟨next, -, hnext⟩
        exact ih hnext
      · rcases of_bind_eq_error h with hbranches | ⟨branches, -, h⟩
        · rcases exists_of_mapM_eq_error hbranches with ⟨next, -, hnext⟩
          exact ih hnext
        · cases h

/-- The search for flags does not look at the end of a forward reference, but a bare end is nested
no deeper than what the reference is about. -/
theorem nestsWithin_of_leafFlags (hends : g.HasBareEnds) {fs : List Flag}
    (h : g.leafFlags levels id = .ok fs) : g.NestsWithin levels id := by
  induction levels generalizing id fs with
  | zero => cases h
  | succ levels ih =>
      rw [leafFlags_succ] at h
      rcases exists_of_bind_eq_ok h with ⟨own, hown, h⟩
      rcases exists_of_bind_eq_ok h with ⟨branches, hbranches, -⟩
      intro next hnext
      rcases List.mem_append.1 hnext with halternative | hpart
      · rcases exists_of_mapM_eq_ok hbranches halternative with ⟨fs', hfs'⟩
        exact ih hfs'
      · cases hkind : (g.node id).kind with
        | native | expressionEnd =>
            rw [hkind] at hpart
            cases hpart
        | composite children =>
            rw [hkind] at hown hpart
            rw [FragmentKind.leafFlags, map_eq_pure_bind] at hown
            rcases exists_of_bind_eq_ok hown with ⟨fss, hchildren, -⟩
            rcases exists_of_mapM_eq_ok hchildren hpart with ⟨fs', hfs'⟩
            exact ih hfs'
        | upTo ahead ending direction =>
            rw [hkind] at hown hpart
            have hahead : g.NestsWithin levels ahead := ih hown
            have hplain : g.IsPlain ending .expressionEnd :=
              hends ending ⟨id, ahead, direction, hkind⟩
            rcases List.mem_pair.1 hpart with rfl | rfl
            · exact hahead
            · cases levels with
              | zero => exact hahead.elim
              | succ levels => exact hplain.nestsWithin nofun

/-- Without flags of its own, a fragment has no flags only for its depth. -/
theorem resolveFlags_eq_error_iff (hends : g.HasBareEnds) (hflags : (g.node id).flags = none)
    {e : CompositionError} : g.resolveFlags id none none = .error e ↔
      e = .nestingTooDeep maxNesting ∧ ¬ g.NestsWithin (maxNesting + 1) id := by
  have hresolve : g.resolveFlags id none none =
      (fun fs => (Flags.ofList fs).withGlobal) <$> g.leafFlags (maxNesting + 1) id := by
    rw [resolveFlags, hflags]
    rfl
  rw [hresolve]
  cases hleaves : g.leafFlags (maxNesting + 1) id with
  | ok fs =>
      have hnests := nestsWithin_of_leafFlags hends hleaves
      simp [hnests]
  | error e' =>
      obtain rfl := eq_of_leafFlags_eq_error hleaves
      have hdeep : ¬ g.NestsWithin (maxNesting + 1) id := by
        intro hnests
        rcases exists_leafFlags hnests with ⟨fs, hfs⟩
        rw [hfs _ (Nat.le_refl _)] at hleaves
        cases hleaves
      constructor
      · intro h
        exact ⟨(Except.error.inj h).symm, hdeep⟩
      · rintro ⟨rfl, -⟩
        rfl

/-- A fragment is refused exactly if some way down from it has more steps than the limit, and then
for its depth.  This is so if it contains itself or leads to a fragment that does.  If the ends of
all forward references are bare, as programs leave them, the flags of its leaves are refused under
the same condition.  In any graph, what has a source is never refused for its flags. -/
theorem refused_iff_exists_descent (g : Graph) (id : FragmentId) :
    (∀ e, g.source id = .error e ↔ e = .nestingTooDeep maxNesting ∧
      ∃ path, g.IsDescent id path ∧ maxNesting < path.length) ∧
    (∀ loop, g.Reaches id loop → (∃ next ∈ (g.node loop).links, g.Reaches next loop) →
      g.source id = .error (.nestingTooDeep maxNesting)) ∧
    (g.HasBareEnds → (g.node id).flags = none → ∀ e, g.resolveFlags id none none = .error e ↔
      e = .nestingTooDeep maxNesting ∧ ∃ path, g.IsDescent id path ∧ maxNesting < path.length) ∧
    ∀ text given default, g.source id = .ok text → ∃ flags,
      g.resolveFlags id given default = .ok flags ∧
      g.regex id given default = Regex.compile text flags := by
  refine ⟨fun e => ?_, fun loop hloop hcycle => ?_, fun hends hflags e => ?_,
    fun text given default htext => ?_⟩
  · rw [source_eq_error_iff, not_nestsWithin_iff_exists_descent]
  · rcases hcycle with ⟨next, hnext, hback⟩
    refine source_eq_error_iff.2 ⟨rfl, fun hnests => ?_⟩
    exact not_reaches_of_nestsWithin (hnests.of_reaches hloop) hnext hback
  · rw [resolveFlags_eq_error_iff hends hflags, not_nestsWithin_iff_exists_descent]
  · rcases exists_resolveFlags_of_source htext given default with ⟨flags, hresolve⟩
    exact ⟨flags, hresolve, regex_of_source htext hresolve⟩

/-- A pattern that has itself among its alternatives, a forward reference to it, and a pattern
beside them. -/
def recurrent : Graph := ⟨#[
  { kind := .native (.ofSource "a"), alternatives := [⟨1⟩] },
  { kind := .composite [⟨0⟩] },
  { kind := .expressionEnd },
  { kind := .upTo ⟨0⟩ ⟨2⟩ .behind },
  { kind := .native (.ofSource "b") }]⟩

theorem refused_recurrent :
    recurrent.source ⟨3⟩ = .error (.nestingTooDeep maxNesting) ∧
    recurrent.resolveFlags ⟨3⟩ none none = .error (.nestingTooDeep maxNesting) ∧
    recurrent.source ⟨4⟩ = .ok "b" ∧
    ∃ flags, recurrent.resolveFlags ⟨4⟩ none none = .ok flags := by
  have hends : recurrent.HasBareEnds := by
    rintro id ⟨⟨_ | _ | _ | _ | _ | i⟩, ahead, direction, hkind⟩
    · cases hkind
    · cases hkind
    · cases hkind
    · obtain rfl := (FragmentKind.upTo.inj hkind).2.1
      exact ⟨by decide, rfl, rfl, rfl, rfl⟩
    · cases hkind
    · cases hkind
  have hreaches : recurrent.Reaches ⟨3⟩ ⟨0⟩ := .single (by decide)
  have hcycle : ∃ next ∈ (recurrent.node ⟨0⟩).links, recurrent.Reaches next ⟨0⟩ :=
    ⟨⟨1⟩, by decide, .single (by decide)⟩
  have hrefused := refused_iff_exists_descent recurrent ⟨3⟩
  have hsource := hrefused.2.1 ⟨0⟩ hreaches hcycle
  have hflags := (hrefused.2.2.1 hends rfl _).2 ((hrefused.1 _).1 hsource)
  have hbeside : recurrent.source ⟨4⟩ = .ok "b" := rfl
  rcases (refused_iff_exists_descent recurrent ⟨4⟩).2.2.2 "b" none none hbeside with
    ⟨flags, hresolve, -⟩
  exact ⟨hsource, hflags, hbeside, flags, hresolve⟩

end Graph

end RegexComposition

import Mathlib.Data.List.Forall2
import Mathlib.Logic.Relation
import Mathlib.Tactic.Common
import RegexComposition.Fragment.Source

/-!
# Nesting depth

Compiling a fragment fails only if it is nested too deep.

Main results:

- `Graph.NestsWithin`, `Graph.Reaches`: the depth of a fragment, and the nodes below it.
- `Graph.emission`: the emission of a fragment that is not nested too deep.
- `Graph.emit_of_nestsWithin`, `Graph.nestsWithin_of_emit`: compiling such a fragment gives its
  emission, and other fragments have none.
- `Graph.source_of_nestsWithin`, `Graph.nestsWithin_of_source`: such a fragment has a source, and
  other fragments have none.
- `Graph.emit_eq_error`: any other fragment is refused for its depth.
- `Graph.not_reaches_of_nestsWithin`: what is not nested too deep does not contain itself.
- `Graph.emission_of_le`, `Graph.exists_leafFlags`: further levels make no difference.
-/

namespace RegexComposition

/-- Computations that succeed one by one succeed together. -/
theorem mapM_of_forall₂ {ε α β : Type} {f : α → Except ε β} {as : List α} {bs : List β}
    (h : List.Forall₂ (fun a b => f a = .ok b) as bs) : as.mapM f = .ok bs := by
  induction h with
  | nil => rfl
  | cons hfirst _ ih =>
      rw [List.mapM_cons, hfirst, ih]
      rfl

/-- A computation that goes on after another one succeeds only if that one does. -/
theorem exists_of_bind_eq_ok {ε α β : Type} {x : Except ε α} {f : α → Except ε β} {b : β}
    (h : x >>= f = .ok b) : ∃ a, x = .ok a ∧ f a = .ok b := by
  cases x with
  | error e => cases h
  | ok a => exact ⟨a, rfl, h⟩

/-- Computations that succeed together succeed one by one. -/
theorem forall₂_of_mapM {ε α β : Type} {f : α → Except ε β} {as : List α} {bs : List β}
    (h : as.mapM f = .ok bs) : List.Forall₂ (fun a b => f a = .ok b) as bs := by
  induction as generalizing bs with
  | nil =>
      obtain rfl := Except.ok.inj h
      exact .nil
  | cons a as ih =>
      rw [List.mapM_cons] at h
      rcases exists_of_bind_eq_ok h with ⟨b, hfirst, h⟩
      rcases exists_of_bind_eq_ok h with ⟨bs', hrest, h⟩
      obtain rfl := Except.ok.inj h
      exact .cons hfirst (ih hrest)

/-- What a kind makes of the emissions of its parts. -/
def FragmentKind.emission (part : FragmentId → Emission) : FragmentKind → Emission
  | native pattern => Emission.ofString pattern.source
  | composite children => Emission.sequence (children.map part)
  | upTo ahead ending direction => Emission.upTo direction (part ahead) (part ending)
  | expressionEnd => [.endMark]

/-- The emission of a kind, if all of its parts have one. -/
def FragmentKind.emit (part : FragmentId → Except CompositionError Emission) :
    FragmentKind → Except CompositionError Emission
  | native pattern => .ok (Emission.ofString pattern.source)
  | composite children => Emission.sequence <$> children.mapM part
  | upTo ahead ending direction => Emission.upTo direction <$> part ahead <*> part ending
  | expressionEnd => .ok [.endMark]

/-- The flags of the leaves of a kind, if all of its parts have them. -/
def FragmentKind.leafFlags (part : FragmentId → Except CompositionError (List Flag)) :
    FragmentKind → Except CompositionError (List Flag)
  | native pattern => .ok pattern.flags.toList
  | composite children => List.flatten <$> children.mapM part
  | upTo ahead _ _ => part ahead
  | expressionEnd => .ok []

/-- A kind has an emission only if all of its parts have one. -/
theorem FragmentKind.exists_of_emit {part : FragmentId → Except CompositionError Emission}
    {kind : FragmentKind} {e : Emission} (h : kind.emit part = .ok e) {id : FragmentId}
    (hid : id ∈ kind.parts) : ∃ e, part id = .ok e := by
  cases kind with
  | native pattern => exact absurd hid List.not_mem_nil
  | expressionEnd => exact absurd hid List.not_mem_nil
  | composite children =>
      rw [emit, map_eq_pure_bind] at h
      rcases exists_of_bind_eq_ok h with ⟨es, hes, -⟩
      rcases List.mem_iff_getElem.1 hid with ⟨i, hi, rfl⟩
      have hall := List.forall₂_iff_get.1 (forall₂_of_mapM hes)
      exact ⟨_, hall.2 i hi (hall.1 ▸ hi)⟩
  | upTo ahead ending direction =>
      rw [emit, map_eq_pure_bind, seq_eq_bind_map] at h
      rcases exists_of_bind_eq_ok h with ⟨f, hahead, hending⟩
      rcases exists_of_bind_eq_ok hahead with ⟨first, hfirst, -⟩
      rw [map_eq_pure_bind] at hending
      rcases exists_of_bind_eq_ok hending with ⟨second, hsecond, -⟩
      simp only [parts, List.mem_cons, List.not_mem_nil, or_false] at hid
      rcases hid with rfl | rfl
      · exact ⟨first, hfirst⟩
      · exact ⟨second, hsecond⟩

/-- What a kind makes of its parts only depends on these. -/
theorem FragmentKind.emission_congr {part part' : FragmentId → Emission} {kind : FragmentKind}
    (h : ∀ id ∈ kind.parts, part' id = part id) : kind.emission part' = kind.emission part := by
  cases kind with
  | native | expressionEnd => rfl
  | composite children =>
      have hmap : children.map part' = children.map part := List.map_congr_left h
      rw [emission, emission, hmap]
  | upTo ahead ending direction =>
      rw [emission, emission, h ahead List.mem_cons_self,
        h ending (List.mem_cons_of_mem _ List.mem_cons_self)]

/-- If a computation that goes on after another one fails, one of the two fails. -/
theorem of_bind_eq_error {ε α β : Type} {x : Except ε α} {f : α → Except ε β} {e : ε}
    (h : x >>= f = .error e) : x = .error e ∨ ∃ a, x = .ok a ∧ f a = .error e := by
  cases x with
  | error e' => exact Or.inl (congrArg Except.error (Except.error.inj h))
  | ok a => exact Or.inr ⟨a, rfl, h⟩

/-- If computations fail together, one of them fails. -/
theorem exists_of_mapM_eq_error {ε α β : Type} {f : α → Except ε β} {as : List α} {e : ε}
    (h : as.mapM f = .error e) : ∃ a ∈ as, f a = .error e := by
  induction as with
  | nil => cases h
  | cons a as ih =>
      rw [List.mapM_cons] at h
      rcases of_bind_eq_error h with hfirst | ⟨b, -, h⟩
      · exact ⟨a, List.mem_cons_self, hfirst⟩
      · rcases of_bind_eq_error h with hrest | ⟨bs, -, h⟩
        · rcases ih hrest with ⟨a', ha', herror⟩
          exact ⟨a', List.mem_cons_of_mem a ha', herror⟩
        · cases h

/-- If a kind has no emission, one of its parts has none. -/
theorem FragmentKind.exists_of_emit_eq_error {part : FragmentId → Except CompositionError Emission}
    {kind : FragmentKind} {e : CompositionError} (h : kind.emit part = .error e) :
    ∃ id ∈ kind.parts, part id = .error e := by
  cases kind with
  | native | expressionEnd => cases h
  | composite children =>
      rw [emit, map_eq_pure_bind] at h
      rcases of_bind_eq_error h with hchildren | ⟨es, -, h⟩
      · exact exists_of_mapM_eq_error hchildren
      · cases h
  | upTo ahead ending direction =>
      rw [emit, map_eq_pure_bind, seq_eq_bind_map] at h
      rcases of_bind_eq_error h with hahead | ⟨f, -, h⟩
      · rcases of_bind_eq_error hahead with hahead | ⟨first, -, hahead⟩
        · exact ⟨ahead, List.mem_cons_self, hahead⟩
        · cases hahead
      · rw [map_eq_pure_bind] at h
        rcases of_bind_eq_error h with hending | ⟨second, -, h⟩
        · exact ⟨ending, List.mem_cons_of_mem _ List.mem_cons_self, hending⟩
        · cases h

namespace Graph

variable {g : Graph} {levels levels' : Nat} {id next : FragmentId} {ids : List FragmentId}

/-- The node and everything below it take up at most the given number of levels. -/
def NestsWithin (g : Graph) : (levels : Nat) → FragmentId → Prop
  | 0, _ => False
  | levels + 1, id => ∀ next ∈ (g.node id).links, g.NestsWithin levels next

/-- The emission of a node, without regard to what lies below the given number of levels. -/
def emission (g : Graph) : (levels : Nat) → FragmentId → Emission
  | 0, _ => []
  | levels + 1, id =>
    let n := g.node id
    n.modifiers.apply (Emission.alternation (n.kind.emission (g.emission levels))
      (n.alternatives.map (g.emission levels)))

/-- The second node is the first one or lies below it. -/
def Reaches (g : Graph) : FragmentId → FragmentId → Prop :=
  Relation.ReflTransGen fun id next => next ∈ (g.node id).links

/-- Below a node there are only older ones if every node only mentions older nodes. -/
theorem index_le_of_reaches {root : FragmentId}
    (h : ∀ i ≤ root.index, ∀ next ∈ (g.node ⟨i⟩).links, next.index < i)
    (hid : g.Reaches root id) : id.index ≤ root.index := by
  induction hid with
  | refl => exact Nat.le_refl _
  | @tail id next _ hnext ih =>
      have hlt : next.index < id.index := h id.index ih next hnext
      omega

/-- A fragment in which every node only mentions older nodes has no more levels than there are
nodes. -/
theorem nestsWithin_of_older (h : ∀ i ≤ id.index, ∀ next ∈ (g.node ⟨i⟩).links, next.index < i)
    (hlevels : id.index < levels) : g.NestsWithin levels id := by
  induction levels generalizing id with
  | zero => exact absurd hlevels (Nat.not_lt_zero _)
  | succ levels ih =>
      intro next hnext
      have hlt : next.index < id.index := h id.index (Nat.le_refl _) next hnext
      exact ih (fun i hi => h i (by omega)) (by omega)

/-- Nodes that all have an emission have their emissions together. -/
theorem mapM_emit (h : ∀ id ∈ ids, g.emit levels id = .ok (g.emission levels id)) :
    ids.mapM (g.emit levels) = .ok (ids.map (g.emission levels)) :=
  mapM_of_forall₂ (List.forall₂_map_right_iff.2 (List.forall₂_same.2 h))

/-- A fragment that is not nested too deep has an emission. -/
theorem emit_of_nestsWithin (h : g.NestsWithin levels id) :
    g.emit levels id = .ok (g.emission levels id) := by
  induction levels generalizing id with
  | zero => exact h.elim
  | succ levels ih =>
      have hlinks : ∀ next ∈ (g.node id).links, g.emit levels next =
          .ok (g.emission levels next) := fun next hnext => ih (h next hnext)
      have halternatives := @mapM_emit g levels (g.node id).alternatives fun next hnext =>
        hlinks next (List.mem_append_left _ hnext)
      have hparts : ∀ next ∈ (g.node id).kind.parts, g.emit levels next =
          .ok (g.emission levels next) := fun next hnext =>
        hlinks next (List.mem_append_right _ hnext)
      unfold emit emission
      dsimp only
      rw [halternatives]
      cases hkind : (g.node id).kind with
      | native pattern => rfl
      | expressionEnd => rfl
      | composite children =>
          rw [hkind] at hparts
          have hchildren : children.mapM (g.emit levels) =
              .ok (children.map (g.emission levels)) := mapM_emit hparts
          dsimp only
          rw [hchildren]
          rfl
      | upTo ahead ending direction =>
          rw [hkind] at hparts
          dsimp only
          rw [hparts ahead (by simp [FragmentKind.parts]),
            hparts ending (by simp [FragmentKind.parts])]
          rfl

/-- The emission of a node is made of those of the nodes that it leads to. -/
theorem emit_succ (g : Graph) (levels : Nat) (id : FragmentId) : g.emit (levels + 1) id =
    (do
      let own ← (g.node id).kind.emit (g.emit levels)
      let branches ← (g.node id).alternatives.mapM (g.emit levels)
      return (g.node id).modifiers.apply (Emission.alternation own branches)) := by
  unfold emit
  dsimp only
  cases (g.node id).kind <;> rfl

/-- A fragment that has an emission is not nested too deep. -/
theorem nestsWithin_of_emit {e : Emission} (h : g.emit levels id = .ok e) :
    g.NestsWithin levels id := by
  induction levels generalizing id e with
  | zero => cases h
  | succ levels ih =>
      rw [emit_succ] at h
      rcases exists_of_bind_eq_ok h with ⟨own, hown, h⟩
      rcases exists_of_bind_eq_ok h with ⟨branches, hbranches, -⟩
      intro next hnext
      rcases List.mem_append.1 hnext with halternative | hpart
      · rcases List.mem_iff_getElem.1 halternative with ⟨i, hi, rfl⟩
        have hall := List.forall₂_iff_get.1 (forall₂_of_mapM hbranches)
        exact ih (hall.2 i hi (hall.1 ▸ hi))
      · rcases FragmentKind.exists_of_emit hown hpart with ⟨e', he'⟩
        exact ih he'

/-- Compiling a fragment fails only for its depth. -/
theorem eq_of_emit_eq_error {e : CompositionError} (h : g.emit levels id = .error e) :
    e = .nestingTooDeep maxNesting := by
  induction levels generalizing id with
  | zero => exact (Except.error.inj h).symm
  | succ levels ih =>
      rw [emit_succ] at h
      rcases of_bind_eq_error h with hown | ⟨own, -, h⟩
      · rcases FragmentKind.exists_of_emit_eq_error hown with ⟨next, -, hnext⟩
        exact ih hnext
      · rcases of_bind_eq_error h with hbranches | ⟨branches, -, h⟩
        · rcases exists_of_mapM_eq_error hbranches with ⟨next, -, hnext⟩
          exact ih hnext
        · cases h

/-- A fragment that is nested too deep is refused. -/
theorem emit_eq_error (h : ¬ g.NestsWithin levels id) :
    g.emit levels id = .error (.nestingTooDeep maxNesting) := by
  cases hemit : g.emit levels id with
  | ok e => exact absurd (nestsWithin_of_emit hemit) h
  | error e => rw [eq_of_emit_eq_error hemit]

/-- More levels are enough, too. -/
theorem NestsWithin.mono (h : g.NestsWithin levels id) (hle : levels ≤ levels') :
    g.NestsWithin levels' id := by
  induction levels generalizing id levels' with
  | zero => exact h.elim
  | succ levels ih =>
      obtain ⟨n, rfl⟩ :=
        Nat.exists_eq_add_of_le' (Nat.le_trans (Nat.succ_le_succ (Nat.zero_le _)) hle)
      exact fun next hnext => ih (h next hnext) (by omega)

/-- What lies below a node is not nested deeper. -/
theorem NestsWithin.of_reaches (h : g.NestsWithin levels id) (hreaches : g.Reaches id next) :
    g.NestsWithin levels next := by
  induction hreaches with
  | refl => exact h
  | tail _ hlink ih =>
      cases levels with
      | zero => exact ih.elim
      | succ levels => exact (ih _ hlink).mono (Nat.le_succ levels)

/-- What is not nested too deep does not lie below itself. -/
theorem not_reaches_of_nestsWithin (h : g.NestsWithin levels id) (hlink : next ∈ (g.node id).links) :
    ¬ g.Reaches next id := by
  induction levels with
  | zero => exact h.elim
  | succ levels ih => exact fun hreaches => ih ((h next hlink).of_reaches hreaches) hreaches

/-- If the levels are enough, further ones do not change the emission. -/
theorem emission_of_le (h : g.NestsWithin levels id) (hle : levels ≤ levels') :
    g.emission levels' id = g.emission levels id := by
  induction levels generalizing id levels' with
  | zero => exact h.elim
  | succ levels ih =>
      obtain ⟨n, rfl⟩ :=
        Nat.exists_eq_add_of_le' (Nat.le_trans (Nat.succ_le_succ (Nat.zero_le _)) hle)
      have hlinks : ∀ next ∈ (g.node id).links, g.emission n next = g.emission levels next :=
        fun next hnext => ih (h next hnext) (by omega)
      have hbranches : (g.node id).alternatives.map (g.emission n) =
          (g.node id).alternatives.map (g.emission levels) :=
        List.map_congr_left fun next hnext => hlinks next (List.mem_append_left _ hnext)
      have hown : (g.node id).kind.emission (g.emission n) =
          (g.node id).kind.emission (g.emission levels) :=
        FragmentKind.emission_congr fun next hnext => hlinks next (List.mem_append_right _ hnext)
      unfold emission
      dsimp only
      rw [hbranches, hown]

/-- Leaves that have flags at all levels have them together. -/
theorem exists_mapM_leafFlags
    (h : ∀ id ∈ ids, ∃ fs, ∀ levels' ≥ levels, g.leafFlags levels' id = .ok fs) :
    ∃ fss, ∀ levels' ≥ levels, ids.mapM (g.leafFlags levels') = .ok fss := by
  induction ids with
  | nil => exact ⟨[], fun _ _ => rfl⟩
  | cons id ids ih =>
      rcases h id List.mem_cons_self with ⟨fs, hfs⟩
      rcases ih fun id hid => h id (List.mem_cons_of_mem _ hid) with ⟨fss, hfss⟩
      refine ⟨fs :: fss, fun levels' hlevels' => ?_⟩
      rw [List.mapM_cons, hfs levels' hlevels', hfss levels' hlevels']
      rfl

/-- The flags below a node are those of the nodes that it leads to. -/
theorem leafFlags_succ (g : Graph) (levels : Nat) (id : FragmentId) : g.leafFlags (levels + 1) id =
    (do
      let own ← (g.node id).kind.leafFlags (g.leafFlags levels)
      let branches ← (g.node id).alternatives.mapM (g.leafFlags levels)
      return own ++ branches.flatten) := by
  rw [leafFlags]
  dsimp only
  cases (g.node id).kind <;> rfl

/-- If the levels are enough, the leaves have flags, and further levels do not change them. -/
theorem exists_leafFlags (h : g.NestsWithin levels id) :
    ∃ fs, ∀ levels' ≥ levels, g.leafFlags levels' id = .ok fs := by
  induction levels generalizing id with
  | zero => exact h.elim
  | succ levels ih =>
      rcases exists_mapM_leafFlags fun next hnext => ih (h next (List.mem_append_left _ hnext)) with
        ⟨branches, hbranches⟩
      have hparts : ∀ next ∈ (g.node id).kind.parts, ∃ fs, ∀ levels' ≥ levels,
          g.leafFlags levels' next = .ok fs := fun next hnext =>
        ih (h next (List.mem_append_right _ hnext))
      have hown : ∃ own, ∀ levels' ≥ levels,
          (g.node id).kind.leafFlags (g.leafFlags levels') = .ok own := by
        cases hkind : (g.node id).kind with
        | native pattern => exact ⟨_, fun _ _ => rfl⟩
        | expressionEnd => exact ⟨_, fun _ _ => rfl⟩
        | composite children =>
            rw [hkind] at hparts
            rcases exists_mapM_leafFlags hparts with ⟨fss, hfss⟩
            exact ⟨fss.flatten, fun levels' hlevels' =>
              congrArg (List.flatten <$> ·) (hfss levels' hlevels')⟩
        | upTo ahead ending direction =>
            rw [hkind] at hparts
            exact hparts ahead List.mem_cons_self
      rcases hown with ⟨own, hown⟩
      refine ⟨own ++ branches.flatten, fun levels' hlevels' => ?_⟩
      obtain ⟨n, rfl⟩ := Nat.exists_eq_add_of_le'
        (Nat.le_trans (Nat.succ_le_succ (Nat.zero_le _)) hlevels')
      have hn : n ≥ levels := Nat.le_of_succ_le_succ hlevels'
      rw [leafFlags_succ, hown n hn, hbranches n hn]
      rfl

/-- A fragment that is not nested too deep has a source. -/
theorem source_of_nestsWithin (h : g.NestsWithin (maxNesting + 1) id) :
    g.source id =
      .ok (String.ofList (Emission.resolve (g.emission (maxNesting + 1) id))) := by
  rw [source, emit_of_nestsWithin h]
  rfl

/-- A source is missing only for the depth of the fragment. -/
theorem source_eq_error_iff {e : CompositionError} : g.source id = .error e ↔
    e = .nestingTooDeep maxNesting ∧ ¬ g.NestsWithin (maxNesting + 1) id := by
  by_cases hnests : g.NestsWithin (maxNesting + 1) id
  · rw [source_of_nestsWithin hnests]
    simp [hnests]
  · rw [source, emit_eq_error hnests]
    constructor
    · intro h
      exact ⟨(Except.error.inj h).symm, hnests⟩
    · rintro ⟨rfl, -⟩
      rfl

/-- A fragment that has a source is not nested too deep. -/
theorem nestsWithin_of_source {text : String} (h : g.source id = .ok text) :
    g.NestsWithin (maxNesting + 1) id := by
  by_contra hdeep
  rw [source_eq_error_iff.2 ⟨rfl, hdeep⟩] at h
  cases h

/-- A fragment that has a source has flags, too. -/
theorem exists_resolveFlags_of_source {text : String} (h : g.source id = .ok text)
    (given default : Option Flags) : ∃ flags, g.resolveFlags id given default = .ok flags := by
  rcases exists_leafFlags (nestsWithin_of_source h) with ⟨fs, hfs⟩
  rw [resolveFlags]
  split
  · exact ⟨_, rfl⟩
  · rw [hfs _ (Nat.le_refl _)]
    exact ⟨_, rfl⟩

/-- A fragment is compiled from its source under its flags. -/
theorem regex_of_source {given default : Option Flags} {text : String} {flags : Flags}
    (hsource : g.source id = .ok text) (hflags : g.resolveFlags id given default = .ok flags) :
    g.regex id given default = Regex.compile text flags := by
  simp only [regex, hsource, hflags, bind, Except.bind]

end Graph

end RegexComposition

import RegexComposition.Proofs.Fragment.Acceptance
import RegexComposition.Proofs.Fragment.Additions
import RegexComposition.Proofs.Pattern.Terms
import RegexComposition.Proofs.Regex.Occurrences

/-!
# Empty alternatives

A fragment with an alternative that is compiled into nothing matches everywhere, whatever its other
parts are and however it is repeated.

Main results:

- `Pattern.IsNullable`: a pattern that can match nothing everywhere.
- `Frame.MayBeEmpty`: one of the alternatives read so far is such a pattern.
- `Emission.Fills.nullable_alternation`: an empty branch makes the whole alternation one.
- `Graph.isMatch_of_empty_alternative`: a fragment with such an alternative matches every text.
-/

namespace RegexComposition

/-! ## Patterns that can match nothing -/

/-- The continuation finds a way from everywhere at the position. -/
def Continuation.GoesOn (k : Continuation) (i : Nat) : Prop :=
  ∀ q : Place, q.position = i → (k q).isSome = true

namespace Continuation.GoesOn

variable {k : Continuation} {round : Continuation → Continuation} {i : Nat}

/-- What comes after rounds that are required can be reached if each of them can match nothing. -/
theorem required (hround : ∀ {k : Continuation}, k.GoesOn i → (round k).GoesOn i)
    (hk : k.GoesOn i) (n : Nat) : GoesOn (fun q => requiredRounds round k n q) i := by
  induction n with
  | zero => exact hk
  | succ n ih => exact hround ih

/-- Further rounds are not needed. -/
theorem further (hk : k.GoesOn i) (greedy : Bool) (budget : Nat) :
    GoesOn (fun q => optionalRounds round greedy k budget q) i := by
  intro q hq
  obtain ⟨found, hfound⟩ := Option.isSome_iff_exists.1 (hk q hq)
  cases budget with
  | zero => exact hk q hq
  | succ budget =>
      simp only [optionalRounds, hfound]
      split
      · split <;> rfl
      · rfl

end Continuation.GoesOn

namespace Pattern

/-- Wherever the pattern stands it can match nothing: it finds a way if what follows finds one from
the same position. -/
def IsNullable (p : Pattern) : Prop :=
  ∀ (t : Text) (d : Direction) {k : Continuation} {i : Nat}, k.GoesOn i →
    Continuation.GoesOn (p.run t d k) i

namespace IsNullable

variable {p first second last : Pattern} {ps : List Pattern}

theorem empty : Pattern.empty.IsNullable := fun _ _ _ _ hk => hk

theorem seq (hfirst : first.IsNullable) (hsecond : second.IsNullable) :
    (Pattern.seq first second).IsNullable := by
  intro t d k i hk
  cases d with
  | forward => exact hfirst t .forward (hsecond t .forward hk)
  | backward => exact hsecond t .backward (hfirst t .backward hk)

theorem sequence (h : ∀ p ∈ ps, p.IsNullable) : (Pattern.sequence ps).IsNullable := by
  induction ps with
  | nil => exact empty
  | cons p ps ih =>
      exact (h p List.mem_cons_self).seq (ih fun p' hp' => h p' (List.mem_cons_of_mem _ hp'))

/-- One nullable alternative is enough. -/
theorem either (h : first.IsNullable ∨ second.IsNullable) :
    (Pattern.either first second).IsNullable := by
  intro t d k i hk q hq
  rw [run]
  cases hfound : first.run t d k q with
  | some found => rfl
  | none =>
      rcases h with hfirst | hsecond
      · have hsome := hfirst t d hk q hq
        rw [hfound] at hsome
        cases hsome
      · exact hsecond t d hk q hq

theorem alternation (hp : p ∈ ps ++ [last]) (h : p.IsNullable) :
    (Pattern.alternation ps last).IsNullable := by
  induction ps with
  | nil =>
      obtain rfl := List.mem_singleton.1 hp
      exact h
  | cons first ps ih =>
      rcases List.mem_cons.1 hp with rfl | hp
      · exact either (Or.inl h)
      · exact either (Or.inr (ih hp))

theorem group (h : p.IsNullable) (i : Nat) : (Pattern.group i p).IsNullable :=
  fun t d _ _ hk q hq => h t d (fun q' hq' => hk (q'.record d i q) hq') q hq

theorem repeated (h : p.IsNullable) (quantifier : Quantifier) :
    (Pattern.repeated quantifier p).IsNullable := by
  intro t d k i hk
  have hround : ∀ {k : Continuation}, k.GoesOn i →
      Continuation.GoesOn (fun q => p.run t d k (q.forget p.groups)) i :=
    fun hk q hq => h t d hk (q.forget p.groups) hq
  refine Continuation.GoesOn.required hround ?_ quantifier.min
  exact fun q hq => hk.further quantifier.greedy _ q hq

end IsNullable

end Pattern

/-! ## Frames -/

/-- The frame has got terms that can all match nothing. -/
def Frame.GainsNullable : Frame → Frame → Prop := Frame.Gains fun ps => ∀ p ∈ ps, p.IsNullable

/-- One of the alternatives that have been read can match nothing. -/
def Frame.MayBeEmpty (f : Frame) : Prop :=
  ∃ p ∈ Pattern.sequence f.terms.reverse :: f.branches, p.IsNullable

namespace Frame

variable {f f' : Frame} {p : Pattern} {modes : Modes} {q : Quantifier}

theorem MayBeEmpty.body (h : f.MayBeEmpty) : f.body.IsNullable := by
  obtain ⟨p, hp, hnullable⟩ := h
  refine Pattern.IsNullable.alternation (p := p) ?_ hnullable
  simpa [or_comm] using hp

/-- Further alternatives do not matter. -/
theorem MayBeEmpty.split_push (h : f.MayBeEmpty) (p : Pattern) (follows : Quantifiable) :
    (f.split.push p follows).MayBeEmpty := by
  obtain ⟨p', hp', hnullable⟩ := h
  exact ⟨p', List.mem_cons_of_mem _ hp', hnullable⟩

theorem mayBeEmpty_split_push (h : p.IsNullable) (f : Frame) (follows : Quantifiable) :
    (f.split.push p follows).MayBeEmpty :=
  ⟨_, List.mem_cons_self, Pattern.IsNullable.sequence (by simpa [push, split] using h)⟩

/-- A repeated group of such terms is such a term. -/
theorem GainsNullable.repeated (h : Repeats modes q GainsNullable f f') : f.GainsNullable f' := by
  rcases h with ⟨enclosed, hencloses, rfl⟩
  rcases exists_push_of_encloses hencloses with ⟨index, inner, hinner, -, rfl⟩
  rcases hinner.body with ⟨ps, hps, hbody⟩
  have hgroup : (Pattern.group inner.index inner.body).IsNullable := by
    rw [hbody]
    exact (Pattern.IsNullable.sequence hps).group _
  exact Gains.push (fun p hp => List.mem_singleton.1 hp ▸ hgroup.repeated q) f .nothing

end Frame

/-! ## Emissions -/

namespace Emission.Fills

variable {modes : Modes} {own : Emission} {branches : List Emission}

/-- The empty emission is read without a change. -/
theorem nil : Fills modes (fun f f' => f' = f) [] := by
  have hfits : Fits modes 0 (fun f f' => f' = f) [] := Fits.nil fun _ => rfl
  exact ofChars hfits

/-- An empty branch can match nothing, and so can the group of all branches. -/
theorem nullable_alternation (hown : Fills modes (fun _ _ => True) own)
    (hbranches : ∀ branch ∈ branches, Fills modes (fun _ _ => True) branch)
    (hempty : [] ∈ branches) :
    Fills modes Frame.GainsNullable (Emission.alternation own branches) := by
  -- Of a branch it only matters whether it is empty: then nothing is read in its group.
  have hfills : ∀ branch ∈ branches, Fills modes (fun f f' => branch = [] → f' = f) branch := by
    intro branch hbranch
    by_cases hnil : branch = []
    · subst hnil
      exact nil.mono fun _ _ hsame _ => hsame
    · exact (hbranches branch hbranch).mono fun _ _ _ heq => absurd heq hnil
  have halternation := Fills.alternation
    (T := fun items f f' => (f.MayBeEmpty → f'.MayBeEmpty) ∧ ([] ∈ items → f'.MayBeEmpty))
    hown hfills
    (fun _ => ⟨id, nofun⟩) ?_ (List.ne_nil_of_mem hempty)
  · rw [List.map_id'] at halternation
    refine halternation.mono fun f f' hencloses => ?_
    rcases Frame.exists_push_of_encloses hencloses with ⟨index, inner, ⟨_, -, -, hinner⟩, -, rfl⟩
    have hgroup := (hinner hempty).body.group inner.index
    exact Frame.Gains.push (fun p hp => List.mem_singleton.1 hp ▸ hgroup) f _
  · rintro branch rest f f' f'' hencloses ⟨hkeeps, hrest⟩
    rcases Frame.exists_push_of_encloses hencloses with ⟨index, inner, hinner, -, rfl⟩
    refine ⟨fun hf => hkeeps (hf.split_push _ _), fun hmem => ?_⟩
    rcases List.mem_cons.1 hmem with rfl | hmem
    · have hbody : inner.body = .empty := by
        rw [hinner rfl]
        rfl
      refine hkeeps (Frame.mayBeEmpty_split_push ?_ f _)
      rw [hbody]
      exact Pattern.IsNullable.empty.group _
    · exact hrest hmem

end Emission.Fills

/-! ## Lengths -/

/-- Modifiers make all emissions longer by the same. -/
theorem Modifiers.length_chars_apply (m : Modifiers) (e e' : Emission) :
    (Emission.chars (m.apply e)).length + (Emission.chars e').length =
      (Emission.chars (m.apply e')).length + (Emission.chars e).length := by
  rcases m with ⟨optional, oneOrMore, zeroOrMore, quantifier, negated⟩
  cases optional <;> cases oneOrMore <;> cases zeroOrMore <;> cases negated <;> cases quantifier <;>
    simp [apply] <;> omega

namespace Emission

/-- A source has all characters of its emission, and at most an end anchor besides. -/
theorem length_resolve (e : Emission) :
    (chars e).length ≤ (resolve e).length ∧ (resolve e).length ≤ (chars e).length + 1 := by
  rcases resolve_cases e with heq | ⟨front, k, he, heq⟩
  · rw [heq]
    omega
  · rw [heq, he, chars_of_anchored]
    simp only [List.length_append, List.length_cons, List.length_replicate]
    omega

/-- An empty branch is not free. -/
theorem length_chars_alternation (own : Emission) (branches : List Emission) :
    (chars (alternation own branches)).length + 3 ≤
      (chars (alternation own (branches ++ [[]]))).length := by
  have hnil : chars ([] : Emission) = [] := rfl
  cases branches with
  | nil => simp [alternation, ofString, hnil]
  | cons branch branches =>
      simp [alternation, ofString, hnil]
      omega

/-- Whatever is done with it, a fragment has another source with one empty branch more. -/
theorem resolve_alternation_ne (m : Modifiers) (own : Emission) (branches : List Emission) :
    resolve (m.apply (alternation own (branches ++ [[]]))) ≠
      resolve (m.apply (alternation own branches)) := by
  intro heq
  have hlength := congrArg List.length heq
  have hlonger := length_chars_alternation own branches
  have happly :=
    m.length_chars_apply (alternation own (branches ++ [[]])) (alternation own branches)
  have hnew := (length_resolve (m.apply (alternation own (branches ++ [[]])))).1
  have hold := (length_resolve (m.apply (alternation own branches))).2
  omega

end Emission

/-! ## Fragments -/

namespace Graph

variable {g : Graph} {id branch root : FragmentId} {levels : Nat} {flags : Flags}

/-- The source of a fragment with an empty alternative can match nothing. -/
theorem fills_nullable (hnests : g.NestsWithin (levels + 1) id)
    (hbelow : ∀ next, g.Reaches id next → g.Composable flags next)
    (hbranch : branch ∈ (g.node id).alternatives) (hempty : g.emission levels branch = []) :
    Emission.Fills (Modes.ofFlags flags) Frame.GainsNullable (g.emission (levels + 1) id) := by
  have hnode := hbelow id Relation.ReflTransGen.refl
  have hlinks : ∀ next ∈ (g.node id).links,
      Emission.Fills (Modes.ofFlags flags) (fun _ _ => True) (g.emission levels next) :=
    fun next hnext => fills_emission (hnests next hnext) fun last hlast =>
      hbelow last (Relation.ReflTransGen.head hnext hlast)
  have hown := fills_ownEmission hnode
    (fun next hnext => (hbelow next (Relation.ReflTransGen.single
      (List.mem_append_right _ hnext))).negated)
    fun next hnext => hlinks next (List.mem_append_right _ hnext)
  have hbranches : ∀ e ∈ (g.node id).alternatives.map (g.emission levels),
      Emission.Fills (Modes.ofFlags flags) (fun _ _ => True) e := by
    intro e he
    obtain ⟨next, hnext, rfl⟩ := List.mem_map.1 he
    exact hlinks next (List.mem_append_left _ hnext)
  have halternation := Emission.Fills.nullable_alternation hown hbranches
    (hempty ▸ List.mem_map_of_mem hbranch)
  rw [emission]
  exact Emission.Fills.apply_of_repeats halternation
    (fun _ _ _ _ => Frame.GainsNullable.repeated) hnode.negated hnode.quantifier

/-- A fragment with an empty alternative is accepted if its patterns are, and matches every text. -/
theorem isMatch_of_empty_alternative (hnests : g.NestsWithin (maxNesting + 1) root)
    (hbelow : ∀ id, g.Reaches root id → g.Composable flags id)
    (hbranch : branch ∈ (g.node root).alternatives) (hplain : g.IsPlain branch (.composite [])) :
    ∃ source r, g.source root = .ok source ∧ Regex.compile source flags = .ok r ∧
      ∀ text, r.isMatch text = true := by
  have hempty : g.emission maxNesting branch = [] := hplain.emission _
  obtain ⟨n, hfits⟩ := fills_nullable hnests hbelow hbranch hempty
  rcases (hfits _ (Emission.resolves_resolve _)).compile with
    ⟨r, frame, hcompile, -, hpattern, hgains⟩
  refine ⟨_, r, source_of_nestsWithin hnests, hcompile, fun text => ?_⟩
  obtain ⟨ps, hps, hbody⟩ := hgains.body
  have hnullable := Pattern.IsNullable.sequence hps
  rw [← hbody, ← hpattern] at hnullable
  have hsome : Continuation.GoesOn some 0 := fun _ _ => rfl
  exact Regex.isMatch_of_matchAt_zero
    (hnullable (Text.ofString text) .forward hsome ⟨0, Captures.empty⟩ rfl)

end Graph

end RegexComposition

import RegexComposition.Proofs.Pattern.Renumbering
import RegexComposition.Proofs.Regex.Anchored

/-!
# The language of a regular expression

A regular expression matches a text as a whole if its pattern matches it between anchors.  That is
said for every pattern, with or without references and assertions.

Main results:

- `Regex.language`: the texts that a regular expression matches as a whole.
- `Regex.language_eq_of_isRegular`: for a regular pattern these are the words of its language.
- `Regex.language_char`: the language of a single set of characters.
- `Regex.language_optional`: an optional group around a source adds the empty text.
-/

namespace RegexComposition

/-! ## Reaching the end of a text -/

namespace Pattern

variable {t : Text} {q q' : Place}

/-- Goes on at the end of a text only. -/
def toEnd (t : Text) : Continuation := (sequence [assertion (.lineEnd false)]).run t .forward some

theorem accepts_toEnd (t : Text) : (toEnd t).Accepts (fun i => i = t.size) := by
  intro q
  simp [toEnd, sequence, run, Assertion.holds]

/-- With other numbers for its groups a pattern finds a way exactly if it finds one as it stands,
where it only matters which positions it reaches. -/
theorem isSome_run_renumber {f : Nat → Nat} (hf : Function.Injective f) (p : Pattern) {d : Direction}
    {k k' : Continuation} {K : Nat → Prop} (hk : k.Accepts K) (hk' : k'.Accepts K)
    (hq : q.Renumbers f q') :
    ((p.renumber f).run t d k' q').isSome = (p.run t d k q).isSome := by
  have hrelates : Continuation.Relates (Place.Renumbers f) (fun _ _ => True) k k' := by
    intro r r' hr
    have hsome : (k r).isSome = (k' r').isSome := by
      rw [Bool.eq_iff_iff, hk, hk', hr.position]
    generalize k r = found at hsome ⊢
    generalize k' r' = found' at hsome ⊢
    cases found <;> cases found' <;> first | exact .none | exact .some trivial | cases hsome
  have hrel := relates_run_renumber (d := d) hf p t hrelates q q' hq
  generalize p.run t d k q = found at hrel ⊢
  generalize (p.renumber f).run t d k' q' = found' at hrel ⊢
  cases hrel <;> rfl

/-- An optional pattern matches the rest of a text that the pattern matches, or an empty one. -/
theorem isSome_run_optional (p : Pattern) (hq : q.position ≤ t.size) :
    ((repeated ⟨0, some 1, true⟩ p).run t .forward (toEnd t) q).isSome = true ↔
      (p.run t .forward (toEnd t) (q.forget p.groups)).isSome = true ∨ q.position = t.size := by
  have hrun : (repeated ⟨0, some 1, true⟩ p).run t .forward (toEnd t) q =
      optionalRounds (fun next r => p.run t .forward next (r.forget p.groups)) true (toEnd t)
        (Nat.min 1 (t.size - q.position)) q := rfl
  rw [hrun]
  rcases Nat.eq_or_lt_of_le hq with hend | hlt
  · rw [hend, Nat.sub_self]
    exact iff_of_true ((accepts_toEnd t q).2 hend) (.inr rfl)
  · have hnone : ∀ r : Place, r.position = q.position → toEnd t r = none := by
      intro r hr
      rw [← Option.not_isSome_iff_eq_none, accepts_toEnd t r, hr]
      exact Nat.ne_of_lt hlt
    -- A round that reads nothing is refused, but it would not have led to the end either.
    have hnext : (fun r : Place => if r.position = q.position then none else toEnd t r) =
        toEnd t := by
      funext r
      split
      · next hr => exact (hnone r hr).symm
      · rfl
    have hround : optionalRounds (fun next r => p.run t .forward next (r.forget p.groups)) true
        (toEnd t) 1 q = (p.run t .forward (fun r => if r.position = q.position then none
          else toEnd t r) (q.forget p.groups)).or (toEnd t q) := by
      simp only [optionalRounds, if_true]
      cases p.run t .forward (fun r => if r.position = q.position then none else toEnd t r)
        (q.forget p.groups) <;> rfl
    have hbudget : Nat.min 1 (t.size - q.position) = 1 := Nat.min_eq_left (by omega)
    rw [hbudget, hround, hnext, hnone q rfl, or_iff_left (Nat.ne_of_lt hlt)]
    cases p.run t .forward (toEnd t) (q.forget p.groups) <;> rfl

end Pattern

/-! ## Languages -/

namespace Regex

variable {r r' : Regex}

/-- The texts that the regular expression matches as a whole, not only in a part. -/
def language (r : Regex) : Language Char :=
  {w | (r.program.pattern.anchored.matchAt (Text.ofString (String.ofList w)) 0).isSome = true}

instance (r : Regex) (w : List Char) : Decidable (w ∈ r.language) :=
  inferInstanceAs (Decidable ((r.program.pattern.anchored.matchAt
    (Text.ofString (String.ofList w)) 0).isSome = true))

/-- The texts that the regular expression matches as a whole and in which none of the signs occurs. -/
def languageWithout (r : Regex) (signs : List Char) : Language Char :=
  {w | w ∈ r.language ∧ ∀ c ∈ w, c ∉ signs}

theorem mem_language {w : List Char} : w ∈ r.language ↔
    (r.program.pattern.run (Text.ofString (String.ofList w)) .forward
      (Pattern.toEnd (Text.ofString (String.ofList w))) ⟨0, Captures.empty⟩).isSome = true := Iff.rfl

/-- The language of a regular pattern. -/
theorem language_eq_of_isRegular (h : r.program.pattern.IsRegular) :
    r.language = r.program.pattern.language := by
  ext w
  have hmatch := Pattern.matchAt_anchored (t := Text.ofString (String.ofList w)) (i := 0) h
  rw [and_iff_right rfl] at hmatch
  refine Iff.trans hmatch ?_
  simp [Text.ofString]

/-- The language of a single set of characters. -/
theorem language_char {set : CharSet} (h : r.program.pattern = .sequence [.char set]) :
    r.language = {w | ∃ c, set.contains c = true ∧ w = [c]} := by
  have hregular : r.program.pattern.IsRegular := by
    rw [h, Pattern.isRegular_sequence]
    simp [Pattern.IsRegular]
  rw [language_eq_of_isRegular hregular, h, Pattern.language_sequence, List.map_singleton,
    List.prod_singleton, Pattern.language]

/-- An optional group around a source matches the texts that the source matches, and the empty
one. -/
theorem language_optional {i : Nat} (h : r'.program.pattern = .sequence [.repeated ⟨0, some 1, true⟩
      (.group i (r.program.pattern.renumber (· + 1)))]) : r'.language = r.language + 1 := by
  ext w
  set t := Text.ofString (String.ofList w) with ht
  have hsize : t.size = w.length := by simp [ht, Text.ofString, Text.size]
  have hempty : Place.Renumbers (· + 1) ⟨0, Captures.empty⟩ (Place.forget ⟨0, Captures.empty⟩
      (Pattern.group i (r.program.pattern.renumber (· + 1))).groups) :=
    Place.Renumbers.empty _ 0
  have hgroup : ((Pattern.group i (r.program.pattern.renumber (· + 1))).run t .forward
      (Pattern.toEnd t) (Place.forget ⟨0, Captures.empty⟩
        (Pattern.group i (r.program.pattern.renumber (· + 1))).groups)).isSome =
      (r.program.pattern.run t .forward (Pattern.toEnd t) ⟨0, Captures.empty⟩).isSome :=
    Pattern.isSome_run_renumber (add_left_injective 1) _ (Pattern.accepts_toEnd t)
      (fun q => Pattern.accepts_toEnd t _) hempty
  have hrun : r'.program.pattern.run t .forward (Pattern.toEnd t) ⟨0, Captures.empty⟩ =
      (Pattern.repeated ⟨0, some 1, true⟩ (.group i (r.program.pattern.renumber (· + 1)))).run t
        .forward (Pattern.toEnd t) ⟨0, Captures.empty⟩ := by
    rw [h]
    rfl
  have hnil : (0 = t.size) ↔ w ∈ (1 : Language Char) := by
    rw [hsize, Language.mem_one, eq_comm, List.length_eq_zero_iff]
  rw [Language.mem_add, mem_language, mem_language, ← ht, hrun,
    Pattern.isSome_run_optional _ (Nat.zero_le _), hgroup, hnil]

end Regex

end RegexComposition

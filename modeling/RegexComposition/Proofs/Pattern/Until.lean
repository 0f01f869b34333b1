import Mathlib.Order.Bounds.Basic
import RegexComposition.Proofs.Pattern.Word

/-!
# The text up to a word

A lazy repetition of the dot in front of a lookahead for a word passes over the shortest text
without a line end behind which the word stands.

Main results:

- `Text.Awaits`: the word stands at a position that can be reached on one line.
- `optionalRounds_lazy_iff`: where a lazy repetition of a set stops.
- `Pattern.upTo`: everything up to a pattern, as a group, and then another pattern.
- `Pattern.matchAt_upTo_isSome`, `Pattern.of_matchAt_upTo`: what it matches if both match a word.
-/

namespace RegexComposition

/-! ## Words ahead -/

namespace Text

variable {t : Text} {i j : Nat} {w : List Char}

/-- There is no line end between the two positions. -/
def OnOneLine (t : Text) (i j : Nat) : Prop := ∀ c ∈ t.charsOf ⟨i, j⟩, c.toNat ∉ lineTerminators

/-- The word stands in the text at the second position, which is not in front of the first one,
and there is no line end in between. -/
structure Awaits (t : Text) (w : List Char) (i j : Nat) : Prop where
  le : i ≤ j
  bounded : j ≤ t.size
  hasAt : t.HasAt j w
  onOneLine : t.OnOneLine i j

/-- The characters between two positions are those next to a position from the first one to the
second one. -/
theorem mem_charsOf {c : Char} : c ∈ t.charsOf ⟨i, j⟩ ↔
    ∃ m, i ≤ m ∧ m < j ∧ t.next? .forward m = some c := by
  rw [charsOf, Array.mem_toList_iff, Array.mem_extract_iff_getElem]
  dsimp only
  constructor
  · rintro ⟨m, hm, heq⟩
    refine ⟨i + m, by omega, by omega, ?_⟩
    rw [next?, Array.getElem?_eq_getElem (by omega), heq]
  · rintro ⟨m, hle, hlt, hnext⟩
    rcases Array.getElem?_eq_some_iff.1 hnext with ⟨hm, heq⟩
    obtain ⟨d, rfl⟩ := Nat.exists_eq_add_of_le hle
    exact ⟨d, by omega, heq⟩

/-- Up to a position of the text there is a character next to each position in front. -/
theorem onOneLine_iff (hj : j ≤ t.size) : t.OnOneLine i j ↔ ∀ m, i ≤ m → m < j →
    ∃ c, t.next? .forward m = some c ∧ (CharSet.dot false).contains c = true := by
  simp only [OnOneLine, mem_charsOf, CharSet.contains_dot]
  constructor
  · intro h m hle hlt
    have hm : m < t.chars.size := Nat.lt_of_lt_of_le hlt hj
    have hnext : t.next? .forward m = some t.chars[m] := Array.getElem?_eq_getElem hm
    exact ⟨_, hnext, h _ ⟨m, hle, hlt, hnext⟩⟩
  · rintro h c ⟨m, hle, hlt, hnext⟩
    rcases h m hle hlt with ⟨d, hd, hdot⟩
    rw [hnext] at hd
    rwa [Option.some.inj hd]

end Text

/-! ## Lazy repetition -/

/-- A lazy repetition of a set stops at the first position where the continuation finds a way, if
there are only characters of the set in front of it. -/
theorem optionalRounds_lazy_iff {t : Text} {set : CharSet} {k : Continuation} {budget : Nat}
    {place r : Place} :
    optionalRounds (fun next p => (Pattern.char set).run t .forward next p) false k budget place =
        some r ↔
      ∃ j, place.position ≤ j ∧ j ≤ place.position + budget ∧
        (∀ m, place.position ≤ m → m < j → k ⟨m, place.captures⟩ = none ∧
          ∃ c, t.next? .forward m = some c ∧ set.contains c = true) ∧
        k ⟨j, place.captures⟩ = some r := by
  -- Each round reads one character, so the rule against empty rounds never applies.
  induction budget generalizing place with
  | zero =>
      constructor
      · intro h
        exact ⟨place.position, Nat.le_refl _, Nat.le_refl _, fun m _ _ => by omega, h⟩
      · rintro ⟨j, hle, hmax, -, hk⟩
        obtain rfl : j = place.position := by omega
        exact hk
  | succ budget ih =>
      simp only [optionalRounds, Bool.false_eq_true, if_false, Pattern.run]
      constructor
      · intro h
        split at h
        · next r' hk =>
            obtain rfl := Option.some.inj h
            exact ⟨place.position, Nat.le_refl _, by omega, fun m _ _ => by omega, hk⟩
        · next hk =>
            split at h
            · next c hnext =>
                split at h
                · next hc =>
                    have hmove : (place.move .forward).position = place.position + 1 := rfl
                    rw [hmove, if_neg (Nat.succ_ne_self _)] at h
                    rcases ih.1 h with ⟨j, hle, hmax, hbefore, hj⟩
                    rw [hmove] at hle hmax hbefore
                    refine ⟨j, by omega, by omega, fun m hm hlt => ?_, hj⟩
                    by_cases heq : m = place.position
                    · rw [heq]
                      exact ⟨hk, c, hnext, hc⟩
                    · exact hbefore m (by omega) hlt
                · cases h
            · cases h
      · rintro ⟨j, hle, hmax, hbefore, hj⟩
        by_cases heq : j = place.position
        · subst heq
          rw [hj]
        · rcases hbefore place.position (Nat.le_refl _) (by omega) with ⟨hk, c, hnext, hc⟩
          rw [hk, hnext]
          have hmove : (place.move .forward).position = place.position + 1 := rfl
          dsimp only
          rw [if_pos hc, hmove, if_neg (Nat.succ_ne_self _)]
          exact ih.2 ⟨j, by rw [hmove]; omega, by rw [hmove]; omega,
            fun m hm hlt => hbefore m (by rw [hmove] at hm; omega) hlt, hj⟩

/-! ## Matching up to a word -/

namespace Pattern

variable {t : Text} {ahead rest : Pattern} {i start : Nat} {w : List Char} {place : Place}

/-- The shortest text on one line in front of `ahead`, as a group, and then `rest`. -/
def upTo (i : Nat) (ahead rest : Pattern) : Pattern :=
  seq (group i (sequence [repeated ⟨0, none, false⟩ (char (CharSet.dot false)),
    look .forward false ahead])) rest

/-- What follows the repetition finds a way exactly where the word stands. -/
theorem exists_run_upTo (hahead : ahead.IsWord w) (hrest : rest.IsWord w) (hi : i ∉ rest.groups)
    (t : Text) (source place : Place) : ∃ captures : Captures,
      captures.get? i = some ⟨source.position, place.position⟩ ∧
      (t.HasAt place.position w →
        (sequence [look .forward false ahead]).run t .forward
          (fun q => rest.run t .forward some (q.record .forward i source)) place =
            some ⟨place.position + w.length, captures⟩) ∧
      (¬ t.HasAt place.position w →
        (sequence [look .forward false ahead]).run t .forward
          (fun q => rest.run t .forward some (q.record .forward i source)) place = none) := by
  rcases hahead t place with ⟨c, -, hlook⟩
  rcases hrest t ((⟨place.position, c⟩ : Place).record .forward i source) with
    ⟨c', hc', hbehind⟩
  refine ⟨c', ?_, fun hat => ?_, fun hat => ?_⟩
  · rw [hc' i hi]
    exact Captures.get?_record_self _ _ _
  · have hrun := (hbehind some).1 hat
    simp only [sequence, List.foldr, run, (hlook some).1 hat]
    exact hrun
  · simp [sequence, run, (hlook some).2 hat]

/-- The match at a position is found by the repetition. -/
theorem matchAt_upTo (i : Nat) (ahead rest : Pattern) (t : Text) (start : Nat) :
    (upTo i ahead rest).matchAt t start =
      optionalRounds (fun next p => (char (CharSet.dot false)).run t .forward next p) false
        (fun place => (sequence [look .forward false ahead]).run t .forward
          (fun q => rest.run t .forward some (q.record .forward i ⟨start, Captures.empty⟩)) place)
        (t.size - start) ⟨start, Captures.empty⟩ := rfl

/-- A match goes up to the first place on the line where the word stands, and over the word. -/
theorem of_matchAt_upTo (hahead : ahead.IsWord w) (hrest : rest.IsWord w) (hi : i ∉ rest.groups)
    (hstart : start ≤ t.size) (h : (upTo i ahead rest).matchAt t start = some place) :
    ∃ j, IsLeast {j | t.Awaits w start j} j ∧ place.position = j + w.length ∧
      place.captures.get? i = some ⟨start, j⟩ := by
  rw [matchAt_upTo, optionalRounds_lazy_iff] at h
  rcases h with ⟨j, hle, hmax, hbefore, hj⟩
  dsimp only at hle hmax hbefore hj
  have hbounded : j ≤ t.size := by omega
  have hline : t.OnOneLine start j :=
    (Text.onOneLine_iff hbounded).2 fun m hm hlt => (hbefore m hm hlt).2
  have hnot : ∀ m, start ≤ m → m < j → ¬ t.HasAt m w := by
    intro m hm hlt hat
    rcases exists_run_upTo hahead hrest hi t ⟨start, Captures.empty⟩ ⟨m, Captures.empty⟩ with
      ⟨c, -, hrun, -⟩
    have hnone := (hbefore m hm hlt).1
    rw [hrun hat] at hnone
    cases hnone
  rcases exists_run_upTo hahead hrest hi t ⟨start, Captures.empty⟩ ⟨j, Captures.empty⟩ with
    ⟨c, hc, hrun, hfail⟩
  by_cases hat : t.HasAt j w
  · rw [hrun hat] at hj
    obtain rfl := Option.some.inj hj
    refine ⟨j, ⟨⟨hle, hbounded, hat, hline⟩, fun m hm => ?_⟩, rfl, hc⟩
    exact Nat.not_lt.1 fun hlt => hnot m hm.le hlt hm.hasAt
  · rw [hfail hat] at hj
    cases hj

/-- There is a match if the word stands somewhere on the line. -/
theorem matchAt_upTo_isSome (hahead : ahead.IsWord w) (hrest : rest.IsWord w)
    (hi : i ∉ rest.groups) (hstart : start ≤ t.size) :
    ((upTo i ahead rest).matchAt t start).isSome = true ↔ ∃ j, t.Awaits w start j := by
  classical
  constructor
  · intro h
    rcases Option.isSome_iff_exists.1 h with ⟨place, hplace⟩
    rcases of_matchAt_upTo hahead hrest hi hstart hplace with ⟨j, hj, -⟩
    exact ⟨j, hj.1⟩
  · intro h
    -- The repetition stops at the first of these places.
    have hfirst := Nat.find_spec h
    rcases exists_run_upTo hahead hrest hi t ⟨start, Captures.empty⟩
      ⟨Nat.find h, Captures.empty⟩ with ⟨c, -, hrun, -⟩
    refine Option.isSome_iff_exists.2 ⟨⟨Nat.find h + w.length, c⟩, ?_⟩
    rw [matchAt_upTo, optionalRounds_lazy_iff]
    dsimp only
    have hbudget : start + (t.size - start) = t.size := by omega
    rw [hbudget]
    have hline := (Text.onOneLine_iff hfirst.bounded).1 hfirst.onOneLine
    refine ⟨Nat.find h, hfirst.le, hfirst.bounded, fun m hm hlt => ⟨?_, hline m hm hlt⟩,
      hrun hfirst.hasAt⟩
    rcases exists_run_upTo hahead hrest hi t ⟨start, Captures.empty⟩ ⟨m, Captures.empty⟩ with
      ⟨c', -, -, hfail⟩
    refine hfail fun hat => Nat.find_min h hlt ⟨hm, ?_, hat, ?_⟩
    · exact Nat.le_trans (Nat.le_of_lt hlt) hfirst.bounded
    · rw [Text.onOneLine_iff (Nat.le_trans (Nat.le_of_lt hlt) hfirst.bounded)]
      exact fun m' hm' hlt' => hline m' hm' (Nat.lt_trans hlt' hlt)

end Pattern

end RegexComposition

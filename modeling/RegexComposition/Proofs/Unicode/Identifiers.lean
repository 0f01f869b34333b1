import Mathlib.Tactic.Common
import RegexComposition.Unicode.Properties

/-!
# Alphabetic characters in identifiers

Not every alphabetic character can stand in an identifier.  Enclosed letters and the vertical tilde
cannot, and most combining marks cannot stand at its beginning.  That there are no others follows
from the tables, which are compared range by range.

Main results:

- `RangeTable.disjoint`, `RangeTable.within`: how two tables are compared in one pass.
- `isIdentifierContinue_iff`, `isIdentifierStart_iff`: which alphabetic characters may go on with an
  identifier, and which may start one.
-/

namespace RegexComposition.Unicode

/-! ## Comparing tables -/

namespace RangeTable

variable {c n : Nat} {r : Nat × Nat} {ranges others : List (Nat × Nat)}

/-- What is left of an ascending list without the ranges that lie below the code point. -/
def fromPoint (n : Nat) (ranges : List (Nat × Nat)) : List (Nat × Nat) :=
  ranges.dropWhile fun r => r.1 ≤ n && r.2 < n

/-- A code point does not lie in a range below it. -/
theorem containsIn_fromPoint (h : n ≤ c) : containsIn c (fromPoint n ranges) = containsIn c ranges := by
  induction ranges with
  | nil => rfl
  | cons r rest ih =>
      rw [fromPoint, List.dropWhile_cons]
      split
      · next hbelow =>
          simp only [Bool.and_eq_true, decide_eq_true_eq] at hbelow
          rw [containsIn, if_neg (by omega), if_neg (by omega)]
          exact ih
      · rfl

/-- Whether no two ranges of two ascending lists meet. -/
def disjointIn : List (Nat × Nat) → List (Nat × Nat) → Bool
  | [], _ => true
  | r :: rest, others =>
    let others := fromPoint r.1 others
    others.head?.all (r.2 < ·.1) && disjointIn rest others

/-- Whether every range of an ascending list lies in a range of the second ascending list or in one
of a few other ranges. -/
def withinIn (few : List (Nat × Nat)) : List (Nat × Nat) → List (Nat × Nat) → Bool
  | [], _ => true
  | r :: rest, others =>
    let others := fromPoint r.1 others
    ((others.head?.any fun s => s.1 ≤ r.1 && r.2 ≤ s.2) || few.any fun s => s.1 ≤ r.1 && r.2 ≤ s.2) &&
      withinIn few rest others

theorem containsIn_cons (h : containsIn c (r :: ranges) = true) :
    r.1 ≤ c ∧ (c ≤ r.2 ∨ containsIn c ranges = true) := by
  rw [containsIn] at h
  split at h
  · cases h
  · split at h
    · exact ⟨by omega, .inl ‹_›⟩
    · exact ⟨by omega, .inr h⟩

theorem containsIn_of_disjointIn (h : disjointIn ranges others = true)
    (hc : containsIn c ranges = true) : containsIn c others = false := by
  induction ranges generalizing others with
  | nil => cases hc
  | cons r rest ih =>
      rw [disjointIn, Bool.and_eq_true] at h
      rcases containsIn_cons hc with ⟨hfirst, hlast | hrest⟩
      · rw [← containsIn_fromPoint hfirst]
        cases hothers : fromPoint r.1 others with
        | nil => rfl
        | cons s others =>
            have hbehind : r.2 < s.1 := by simpa [hothers] using h.1
            rw [containsIn, if_pos (by omega)]
      · rw [← containsIn_fromPoint hfirst]
        exact ih h.2 hrest

theorem containsIn_of_withinIn {few : List (Nat × Nat)} (h : withinIn few ranges others = true)
    (hc : containsIn c ranges = true) :
    containsIn c others = true ∨ ∃ s ∈ few, s.1 ≤ c ∧ c ≤ s.2 := by
  induction ranges generalizing others with
  | nil => cases hc
  | cons r rest ih =>
      rw [withinIn, Bool.and_eq_true, Bool.or_eq_true] at h
      rcases containsIn_cons hc with ⟨hfirst, hlast | hrest⟩
      · rcases h.1 with hinside | hfew
        · cases hothers : fromPoint r.1 others with
          | nil => simp [hothers] at hinside
          | cons s others' =>
              simp only [hothers, List.head?_cons, Option.any_some, Bool.and_eq_true,
                decide_eq_true_eq] at hinside
              rw [← containsIn_fromPoint hfirst, hothers, containsIn, if_neg (by omega),
                if_pos (by omega)]
              exact .inl rfl
        · rcases List.any_eq_true.1 hfew with ⟨s, hs, hinside⟩
          simp only [Bool.and_eq_true, decide_eq_true_eq] at hinside
          exact .inr ⟨s, hs, by omega, by omega⟩
      · rw [← containsIn_fromPoint hfirst]
        exact ih h.2 hrest

end RangeTable

/-! ## Identifiers -/

/-- The letters in circles and squares. -/
def enclosedLetters : RangeTable where
  ranges := [(0x24B6, 0x24E9), (0x1F130, 0x1F149), (0x1F150, 0x1F169), (0x1F170, 0x1F189)]

/-- Alphabetic code points that cannot stand in an identifier: the enclosed letters and the vertical
tilde. -/
def isForeign (c : Nat) : Bool := enclosedLetters.contains c || c == 0x2E2F

/-- The combining marks apart from two that may start an identifier. -/
def isDependent (c : Nat) : Bool := marks.contains c && c != 0x1885 && c != 0x1886

variable {c : Nat}

theorem marks_or_enclosedLetters_of_otherAlphabetic (h : otherAlphabetic.contains c = true) :
    marks.contains c = true ∨ enclosedLetters.contains c = true := by
  have hwithin : RangeTable.withinIn enclosedLetters.ranges otherAlphabetic.ranges marks.ranges =
      true := by decide +kernel
  refine (RangeTable.containsIn_of_withinIn hwithin h).imp_right ?_
  rintro ⟨r, hr, hfirst, hlast⟩
  simp only [enclosedLetters, List.mem_cons, List.not_mem_nil, or_false] at hr
  simp only [enclosedLetters, RangeTable.contains, RangeTable.containsIn]
  rcases hr with rfl | rfl | rfl | rfl <;> grind

/-- A combining mark is no letter and no letter-like number. -/
theorem not_letter_of_marks (h : marks.contains c = true) :
    letters.contains c = false ∧ letterNumbers.contains c = false :=
  ⟨RangeTable.containsIn_of_disjointIn (by decide +kernel) h,
    RangeTable.containsIn_of_disjointIn (by decide +kernel) h⟩

/-- An enclosed letter is a symbol: no letter, number or mark. -/
theorem not_letter_of_enclosedLetters (h : enclosedLetters.contains c = true) :
    letters.contains c = false ∧ letterNumbers.contains c = false ∧ marks.contains c = false ∧
      decimalDigits.contains c = false :=
  ⟨RangeTable.containsIn_of_disjointIn (by decide +kernel) h,
    RangeTable.containsIn_of_disjointIn (by decide +kernel) h,
    RangeTable.containsIn_of_disjointIn (by decide +kernel) h,
    RangeTable.containsIn_of_disjointIn (by decide +kernel) h⟩

/-- A letter or letter-like number is no combining mark, and it is not foreign unless it is the vertical
tilde. -/
theorem not_isForeign_of_letter (h : letters.contains c = true ∨ letterNumbers.contains c = true)
    (hc : c ≠ 0x2E2F) : isForeign c = false ∧ isDependent c = false := by
  have henclosed : enclosedLetters.contains c = false := by
    rw [Bool.eq_false_iff]
    intro henclosed
    have hno := not_letter_of_enclosedLetters henclosed
    simp [hno.1, hno.2.1] at h
  have hmarks : marks.contains c = false := by
    rw [Bool.eq_false_iff]
    intro hmarks
    simp [not_letter_of_marks hmarks] at h
  exact ⟨by simp [isForeign, henclosed, hc], by simp [isDependent, hmarks]⟩

/-- A code point that may start an identifier is neither foreign nor dependent. -/
theorem not_isForeign_of_isIdentifierStart (h : isIdentifierStart c = true) :
    isForeign c = false ∧ isDependent c = false := by
  simp only [isIdentifierStart, Bool.or_eq_true, Bool.and_eq_true, beq_iff_eq, bne_iff_ne] at h
  rcases h with (((((⟨hletter, hc⟩ | rfl) | rfl) | rfl) | rfl) | rfl) | rfl
  · exact not_isForeign_of_letter hletter hc
  all_goals decide +kernel

/-- An alphabetic code point may start an identifier unless it is foreign or dependent. -/
theorem isIdentifierStart_iff (h : isAlphabetic c = true) :
    isIdentifierStart c = true ↔ isForeign c = false ∧ isDependent c = false := by
  refine ⟨not_isForeign_of_isIdentifierStart, fun ⟨hforeign, hdependent⟩ => ?_⟩
  simp only [isForeign, Bool.or_eq_false_iff, beq_eq_false_iff_ne] at hforeign
  rw [isAlphabetic, Bool.or_eq_true] at h
  rcases h with hletter | hother
  · simp [isIdentifierStart, hletter, hforeign.2]
  · rcases marks_or_enclosedLetters_of_otherAlphabetic hother with hmarks | henclosed
    · have hstart : c = 0x1885 ∨ c = 0x1886 := by
        by_contra hc
        simp [isDependent, hmarks, not_or.1 hc] at hdependent
      rcases hstart with rfl | rfl <;> decide +kernel
    · rw [henclosed] at hforeign
      cases hforeign.1

/-- Foreign code points are alphabetic. -/
theorem isAlphabetic_of_isForeign (h : isForeign c = true) : isAlphabetic c = true := by
  rcases Bool.or_eq_true_iff.1 h with henclosed | htilde
  · have hwithin : RangeTable.withinIn [] enclosedLetters.ranges otherAlphabetic.ranges = true := by
      decide +kernel
    rcases RangeTable.containsIn_of_withinIn hwithin henclosed with hother | ⟨s, hs, -⟩
    · have hcontains : otherAlphabetic.contains c = true := hother
      simp [isAlphabetic, hcontains]
    · cases hs
  · rw [beq_iff_eq.1 htilde]
    decide +kernel

/-- Foreign code points lie in three places. -/
theorem bounds_of_isForeign (h : isForeign c = true) :
    0x24B6 ≤ c ∧ c ≤ 0x24E9 ∨ c = 0x2E2F ∨ 0x1F130 ≤ c ∧ c ≤ 0x1F189 := by
  rcases Bool.or_eq_true_iff.1 h with henclosed | htilde
  · rcases RangeTable.exists_range_of_contains henclosed with ⟨r, hr, hfirst, hlast⟩
    simp only [enclosedLetters, List.mem_cons, List.not_mem_nil, or_false] at hr
    rcases hr with rfl | rfl | rfl | rfl <;> simp only at hfirst hlast <;> omega
  · exact .inr (.inl (beq_iff_eq.1 htilde))

/-- No identifier contains a foreign code point. -/
theorem not_isForeign_of_isIdentifierContinue (h : isIdentifierContinue c = true) :
    isForeign c = false := by
  rw [Bool.eq_false_iff]
  intro hforeign
  have hbounds := bounds_of_isForeign hforeign
  simp only [isIdentifierContinue, Bool.or_eq_true] at h
  rcases h with (((hstart | hmarks) | hdigit) | hconnector) | hinner
  · rw [(not_isForeign_of_isIdentifierStart hstart).1] at hforeign
    cases hforeign
  · rcases Bool.or_eq_true_iff.1 hforeign with henclosed | htilde
    · rw [(not_letter_of_enclosedLetters henclosed).2.2.1] at hmarks
      cases hmarks
    · rw [beq_iff_eq.1 htilde] at hmarks
      exact absurd hmarks (by decide +kernel)
  · rcases Bool.or_eq_true_iff.1 hforeign with henclosed | htilde
    · rw [(not_letter_of_enclosedLetters henclosed).2.2.2] at hdigit
      cases hdigit
    · rw [beq_iff_eq.1 htilde] at hdigit
      exact absurd hdigit (by decide +kernel)
  · simp only [isConnector, Bool.or_eq_true, Bool.and_eq_true, beq_iff_eq, decide_eq_true_eq]
      at hconnector
    omega
  · simp only [isInnerPunctuation, Bool.or_eq_true, Bool.and_eq_true, beq_iff_eq, decide_eq_true_eq]
      at hinner
    omega

/-- An alphabetic code point may go on with an identifier unless it is foreign. -/
theorem isIdentifierContinue_iff (h : isAlphabetic c = true) :
    isIdentifierContinue c = true ↔ isForeign c = false := by
  refine ⟨not_isForeign_of_isIdentifierContinue, fun hforeign => ?_⟩
  cases hdependent : isDependent c with
  | false =>
      have hstart := (isIdentifierStart_iff h).2 ⟨hforeign, hdependent⟩
      simp [isIdentifierContinue, hstart]
  | true =>
      rw [isDependent, Bool.and_eq_true, Bool.and_eq_true] at hdependent
      simp [isIdentifierContinue, hdependent.1.1]

end RegexComposition.Unicode

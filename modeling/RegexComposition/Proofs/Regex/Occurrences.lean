import Mathlib.Tactic.Common
import RegexComposition.Regex

/-!
# Matches of a regular expression

Every match that is enumerated is one that the matcher finds at its start.

Main results:

- `Pattern.search_isSome`, `Regex.isMatch_iff`: when there is a match.
- `Regex.isMatchOf_of_mem_occurrences`: what a match is.
-/

namespace RegexComposition

namespace Pattern

variable {p : Pattern} {t : Text}

/-- The search finds a match at its start, which is a position that it tries. -/
theorem matchAt_of_search {count i start : Nat} {place : Place}
    (h : p.search t count i = some (start, place)) :
    p.matchAt t start = some place ∧ i ≤ start ∧ start ≤ i + count := by
  induction count generalizing i with
  | zero =>
      rcases Option.map_eq_some_iff.1 h with ⟨place', hmatch, heq⟩
      rcases Prod.mk.inj heq with ⟨rfl, rfl⟩
      exact ⟨hmatch, Nat.le_refl i, Nat.le_refl i⟩
  | succ count ih =>
      rw [search] at h
      split at h
      · next place' hmatch =>
          rcases Prod.mk.inj (Option.some.inj h) with ⟨rfl, rfl⟩
          exact ⟨hmatch, Nat.le_refl i, by omega⟩
      · rcases ih h with ⟨hmatch, hmin, hmax⟩
        exact ⟨hmatch, by omega, by omega⟩

/-- The search finds a match if there is one at a position that it tries. -/
theorem search_isSome_of_matchAt {count i j : Nat} (hmin : i ≤ j) (hmax : j ≤ i + count)
    (h : (p.matchAt t j).isSome = true) : (p.search t count i).isSome = true := by
  induction count generalizing i with
  | zero =>
      obtain rfl : j = i := by omega
      rw [search, Option.isSome_map]
      exact h
  | succ count ih =>
      rw [search]
      cases hmatch : p.matchAt t i with
      | some place => rfl
      | none =>
          have hne : j ≠ i := by
            rintro rfl
            rw [hmatch] at h
            cases h
          exact ih (by omega) (by omega)

/-- The search does not look behind a match at the position where it begins. -/
theorem search_of_matchAt {count i : Nat} {place : Place} (h : p.matchAt t i = some place) :
    p.search t count i = some (i, place) := by
  cases count with
  | zero => rw [search, h, Option.map_some]
  | succ count => rw [search, h]

/-- There is no match at the positions that the search has passed over. -/
theorem matchAt_eq_none_of_search {count i j start : Nat} {place : Place}
    (h : p.search t count i = some (start, place)) (hmin : i ≤ j) (hj : j < start) :
    p.matchAt t j = none := by
  induction count generalizing i with
  | zero =>
      rcases Option.map_eq_some_iff.1 h with ⟨place', _, heq⟩
      rcases Prod.mk.inj heq with ⟨rfl, rfl⟩
      omega
  | succ count ih =>
      rw [search] at h
      split at h
      · rcases Prod.mk.inj (Option.some.inj h) with ⟨rfl, rfl⟩
        omega
      · next hnone =>
          by_cases heq : j = i
          · rw [heq]
            exact hnone
          · exact ih h (by omega)

/-- The search decides whether there is a match at a position that it tries. -/
theorem search_isSome {count i : Nat} : (p.search t count i).isSome = true ↔
    ∃ j, i ≤ j ∧ j ≤ i + count ∧ (p.matchAt t j).isSome = true := by
  constructor
  · intro h
    rcases Option.isSome_iff_exists.1 h with ⟨⟨start, place⟩, hsearch⟩
    rcases matchAt_of_search hsearch with ⟨hmatch, hmin, hmax⟩
    exact ⟨start, hmin, hmax, Option.isSome_iff_exists.2 ⟨place, hmatch⟩⟩
  · rintro ⟨j, hmin, hmax, h⟩
    exact search_isSome_of_matchAt hmin hmax h

/-- The first of all matches is the one that the search finds from the begin of the text. -/
theorem head?_occurrences (p : Pattern) (t : Text) : (p.occurrences t).head? =
    (p.search t t.size 0).map fun found => ⟨⟨found.1, found.2.position⟩, found.2.captures⟩ := by
  rw [occurrences, occurrencesFrom, if_neg (Nat.not_lt_zero _), Nat.sub_zero]
  cases p.search t t.size 0 with
  | none => rfl
  | some found => rfl

end Pattern

/-- The occurrence is the match that the pattern prefers at its start. -/
structure Occurrence.IsMatchOf (o : Occurrence) (p : Pattern) (t : Text) : Prop where
  found : p.matchAt t o.span.start = some ⟨o.span.stop, o.captures⟩
  bounded : o.span.start ≤ t.size

/-- Enumerated matches are found by the matcher. -/
theorem Pattern.isMatchOf_of_mem {p : Pattern} {t : Text} {budget i : Nat} {o : Occurrence}
    (h : o ∈ p.occurrencesFrom t budget i) : o.IsMatchOf p t := by
  induction budget generalizing i with
  | zero => cases h
  | succ budget ih =>
      rw [occurrencesFrom] at h
      split at h
      · cases h
      · next hi =>
          split at h
          · cases h
          · next start place hsearch =>
              rcases matchAt_of_search hsearch with ⟨hmatch, _, hmax⟩
              rcases List.mem_cons.1 h with rfl | h
              · exact ⟨hmatch, show start ≤ t.size by omega⟩
              · exact ih h

/-- Adjacent matches are some of all matches. -/
theorem Occurrence.mem_of_mem_takeAdjacent {o : Occurrence} {expected : Nat}
    {l : List Occurrence} (h : o ∈ takeAdjacent expected l) : o ∈ l := by
  induction l generalizing expected with
  | nil => cases h
  | cons head rest ih =>
      rw [takeAdjacent] at h
      split at h
      · rcases List.mem_cons.1 h with rfl | h
        · exact List.mem_cons_self
        · exact List.mem_cons_of_mem head (ih h)
      · cases h

namespace Regex

variable {r : Regex} {text : String} {t : Text} {o : Occurrence}

/-- The matches of a regular expression are found by the matcher. -/
theorem isMatchOf_of_mem_occurrences (h : o ∈ r.occurrences t) :
    o.IsMatchOf r.program.pattern t := by
  unfold occurrences at h
  split at h
  · exact Pattern.isMatchOf_of_mem (Occurrence.mem_of_mem_takeAdjacent h)
  · exact Pattern.isMatchOf_of_mem h

/-- A regular expression matches a text if its pattern matches at some position. -/
theorem isMatch_iff (hsticky : r.isSticky = false) : r.isMatch text = true ↔
    ∃ i ≤ (Text.ofString text).size,
      (r.program.pattern.matchAt (Text.ofString text) i).isSome = true := by
  have hoccurrences : r.isMatch text =
      (r.program.pattern.search (Text.ofString text) (Text.ofString text).size 0).isSome := by
    rw [isMatch, find?, matchesIn, occurrences, hsticky, if_neg Bool.false_ne_true,
      List.head?_map, Pattern.head?_occurrences, Option.isSome_map, Option.isSome_map]
  rw [hoccurrences, Pattern.search_isSome]
  simp only [Nat.zero_le, true_and, Nat.zero_add]

/-- A regular expression matches a text if its pattern matches at the begin, sticky or not. -/
theorem isMatch_of_matchAt_zero
    (h : (r.program.pattern.matchAt (Text.ofString text) 0).isSome = true) :
    r.isMatch text = true := by
  obtain ⟨place, hplace⟩ := Option.isSome_iff_exists.1 h
  have hhead := Pattern.head?_occurrences r.program.pattern (Text.ofString text)
  rw [Pattern.search_of_matchAt hplace, Option.map_some] at hhead
  have hfirst : (r.occurrences (Text.ofString text)).head? =
      some ⟨⟨0, place.position⟩, place.captures⟩ := by
    unfold occurrences
    split
    · obtain ⟨rest, hrest⟩ := List.head?_eq_some_iff.1 hhead
      rw [hrest, Occurrence.takeAdjacent, if_pos rfl, List.head?_cons]
    · exact hhead
  rw [isMatch, find?, matchesIn, List.head?_map, hfirst]
  rfl

end Regex

end RegexComposition

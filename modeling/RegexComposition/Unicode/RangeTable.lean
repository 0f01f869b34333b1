/-!
# Tables of code points

Unicode properties are sets of code points, given as sorted lists of closed ranges.

Main definitions:

- `RangeTable`: a set of code points as a sorted list of ranges.
- `RangeTable.contains`: membership, decided by one pass over the ranges.
-/

namespace RegexComposition.Unicode

/-- A set of code points: closed ranges in ascending order that do not meet. -/
structure RangeTable where
  ranges : List (Nat × Nat)

namespace RangeTable

/-- Whether the code point lies in a range of an ascending list.  The first range that
begins after it ends the search. -/
def containsIn (c : Nat) : List (Nat × Nat) → Bool
  | [] => false
  | (first, last) :: rest =>
    if c < first then false
    else if c ≤ last then true
    else containsIn c rest

/-- Whether the code point belongs to the set. -/
def contains (t : RangeTable) (c : Nat) : Bool := containsIn c t.ranges

/-- A member of the set lies in one of its ranges. -/
theorem exists_range_of_contains {t : RangeTable} {c : Nat} (h : t.contains c = true) :
    ∃ r ∈ t.ranges, r.1 ≤ c ∧ c ≤ r.2 := by
  obtain ⟨ranges⟩ := t
  simp only [contains] at h ⊢
  induction ranges with
  | nil => simp [containsIn] at h
  | cons r rest ih =>
    obtain ⟨first, last⟩ := r
    rw [containsIn] at h
    split at h
    · simp at h
    · split at h
      · exact ⟨(first, last), by simp, by simp; omega⟩
      · obtain ⟨r, hr, hc⟩ := ih h
        exact ⟨r, List.mem_cons_of_mem _ hr, hc⟩

end RangeTable

end RegexComposition.Unicode

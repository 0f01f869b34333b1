import Mathlib.Data.List.Nodup
import Mathlib.Data.List.Perm.Subperm
import RegexComposition.Proofs.Registry.Growth

/-!
# Names of skipped groups

A skipped group gets a numbered name.  Different numbers make different names, so the search for a
free one ends before it has tried more names than are registered.

Main results:

- `Registry.numberedName_injective`: the number can be read off the name.
- `Registry.exists_skipName_eq`: the search ends at the least number whose name is free.
- `Registry.skipName_notMem`: the name that is found is not in use.
- `Registry.exists_insert?_skipName`: a fragment can be registered under it.
-/

namespace RegexComposition

/-- The number can be read off a text that ends with it. -/
theorem append_toString_injective (stem : String) :
    Function.Injective fun number : Nat => stem ++ toString number := by
  intro i j h
  have hchars := congrArg String.toList h
  rw [String.toList_append, String.toList_append] at hchars
  have hdigits := List.append_cancel_left hchars
  have hnumber := congrArg (fun digits => Nat.ofDigitChars 10 digits 0) hdigits
  simpa [Nat.toString_eq_ofList_toDigits] using hnumber

namespace Registry

variable {r : Registry} {budget number : Nat}

/-- The name of a skipped group with the given number. -/
def numberedName (number : Nat) : String := "group_that_is_skipped_" ++ toString number

theorem toList_numberedName (number : Nat) : (numberedName number).toList =
    "group_that_is_skipped_".toList ++ (toString number).toList := String.toList_append

/-- The number can be read off the name. -/
theorem numberedName_injective : Function.Injective numberedName := append_toString_injective _

theorem numberedName_ne_empty (number : Nat) : numberedName number ≠ "" := by
  intro h
  have hchars := congrArg String.toList h
  rw [toList_numberedName, String.toList_empty, List.append_eq_nil_iff] at hchars
  exact absurd hchars.1 (by decide)

/-- The search passes names in use only.  If it ends at one, it has no steps left. -/
theorem exists_skipNameFrom (r : Registry) (budget number : Nat) :
    ∃ stop, r.skipNameFrom budget number = numberedName stop ∧
      number ≤ stop ∧ stop ≤ number + budget ∧
      (∀ passed, number ≤ passed → passed < stop → numberedName passed ∈ r.allNames) ∧
      (numberedName stop ∈ r.allNames → stop = number + budget) := by
  induction budget generalizing number with
  | zero =>
      refine ⟨number, rfl, Nat.le_refl _, Nat.le_refl _, fun passed hfrom hto => ?_, fun _ => rfl⟩
      exact absurd hto (Nat.not_lt.2 hfrom)
  | succ budget ih =>
      by_cases htaken : r.contains (numberedName number)
      · obtain ⟨stop, hstop, hfirst, hlast, hpassed, hend⟩ := ih (number + 1)
        have hstep : r.skipNameFrom (budget + 1) number = r.skipNameFrom budget (number + 1) :=
          if_pos htaken
        refine ⟨stop, hstep.trans hstop, by omega, by omega, fun passed hfrom hto => ?_, ?_⟩
        · rcases Nat.eq_or_lt_of_le hfrom with rfl | hlater
          · exact contains_iff.1 htaken
          · exact hpassed passed hlater hto
        · intro hmem
          rw [hend hmem]
          omega
      · have hstop : r.skipNameFrom (budget + 1) number = numberedName number := if_neg htaken
        refine ⟨number, hstop, Nat.le_refl _, by omega, fun passed hfrom hto => ?_, fun hmem => ?_⟩
        · exact absurd hto (Nat.not_lt.2 hfrom)
        · exact absurd (contains_iff.2 hmem) htaken

/-- The search starts behind the number of groups and ends at the first number whose name is free.
It passes at most as many numbers as there are names: if it ended at a name in use, more names would
have to be registered than there are. -/
theorem exists_skipName_eq (r : Registry) :
    ∃ number, r.skipName = numberedName number ∧ numberedName number ∉ r.allNames ∧
      r.groups.size < number ∧ number ≤ r.groups.size + 1 + (r.aliases.size + r.groups.size) ∧
      ∀ passed, r.groups.size < passed → passed < number → numberedName passed ∈ r.allNames := by
  obtain ⟨number, hname, hfirst, hlast, hpassed, hend⟩ :=
    r.exists_skipNameFrom (r.aliases.size + r.groups.size) (r.groups.size + 1)
  refine ⟨number, hname, fun hmem => ?_, hfirst, hlast, hpassed⟩
  let tried := (List.range (r.aliases.size + r.groups.size + 1)).map
    fun k => numberedName (r.groups.size + 1 + k)
  have htaken : ∀ name ∈ tried, name ∈ r.allNames := by
    intro name hname
    obtain ⟨k, hk, rfl⟩ := List.mem_map.1 hname
    have hk := List.mem_range.1 hk
    have hstop := hend hmem
    rcases Nat.lt_or_ge (r.groups.size + 1 + k) number with hbefore | hat
    · exact hpassed _ (by omega) hbefore
    · rwa [show r.groups.size + 1 + k = number by omega]
  have hnodup : tried.Nodup := by
    refine List.nodup_range.map fun i j hij => ?_
    exact Nat.add_left_cancel (numberedName_injective hij)
  have hlength := (hnodup.subperm htaken).length_le
  have hnames : r.allNames.length = r.aliases.size + r.groups.size := by
    simp [allNames, table, NameTable.names, NameTable.size]
  simp only [tried, List.length_map, List.length_range, hnames] at hlength
  omega

/-- The name that is found for a skipped group is not in use. -/
theorem skipName_notMem (r : Registry) : r.skipName ∉ r.allNames := by
  obtain ⟨number, hname, hfree, -⟩ := r.exists_skipName_eq
  rwa [hname]

theorem skipName_ne_empty (r : Registry) : r.skipName ≠ "" := by
  obtain ⟨number, hname, -⟩ := r.exists_skipName_eq
  rw [hname]
  exact numberedName_ne_empty _

/-- Registering a fragment under the name for a skipped group does not fail. -/
theorem exists_insert?_skipName (r : Registry) (fragment : FragmentId) :
    ∃ names, r.insert? .group r.skipName fragment = .ok names := by
  have hfree : r.nameError? r.skipName = none :=
    nameError?_eq_none_iff.2 ⟨r.skipName_ne_empty, r.skipName_notMem⟩
  refine ⟨{ r with groups := r.groups.insert r.skipName fragment }, ?_⟩
  simp only [insert?, hfree]

end Registry

end RegexComposition

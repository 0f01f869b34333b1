import Mathlib.Data.List.Nodup
import Mathlib.Tactic.Common
import RegexComposition.Registry

/-!
# How registries grow

A registry only changes by the insertion of a name that is neither empty nor in use.  The name
goes to the end of its class and everything else stays where it is.

Main results:

- `Registry.IsValid`: no name is empty and none occurs twice.
- `Registry.Grows`: a later registry starts with the entries of an earlier one.
- `Registry.Inserts`: what a successful insertion does.
- `Registry.inserts_of_insert?`: an insertion that does not fail does just that.
-/

namespace RegexComposition

namespace NameTable

/-- A new entry goes to the end. -/
theorem entries_insert_of_not_mem {t : NameTable} {name : String} {fragment : FragmentId}
    (h : name ∉ t.names) : (t.insert name fragment).entries = t.entries ++ [(name, fragment)] := by
  have hcontains : ¬ t.contains name = true := mt contains_iff.1 h
  simp [insert, hcontains]

end NameTable

namespace Registry

variable {r r' r'' : Registry} {c : NameClass} {name : String} {fragment : FragmentId}

/-! ## Names -/

/-- The names of one class. -/
def table (r : Registry) : NameClass → NameTable
  | .alias => r.aliases
  | .group => r.groups

/-- All names, the aliases first. -/
def allNames (r : Registry) : List String := (r.table .alias).names ++ (r.table .group).names

theorem contains_iff : r.contains name = true ↔ name ∈ r.allNames := by
  simp [contains, allNames, table]

/-- No name is empty, and none occurs twice, be it in one class or in both. -/
structure IsValid (r : Registry) : Prop where
  empty_notMem : "" ∉ r.allNames
  nodup : r.allNames.Nodup

theorem isValid_empty : empty.IsValid where
  empty_notMem := List.not_mem_nil
  nodup := List.nodup_nil

/-! ## Growth -/

/-- The later registry has the entries of the earlier one at the same places of the same classes,
and perhaps more behind them. -/
def Grows (r later : Registry) : Prop := ∀ c, (r.table c).entries <+: (later.table c).entries

theorem Grows.refl (r : Registry) : r.Grows r := fun _ => List.prefix_refl _

theorem Grows.trans (h : r.Grows r') (h' : r'.Grows r'') : r.Grows r'' :=
  fun c => (h c).trans (h' c)

/-! ## Insertion -/

/-- The name is neither empty nor in use in the first registry; in the second one it stands at
the end of its class, which is the only difference. -/
structure Inserts (r : Registry) (c : NameClass) (name : String) (fragment : FragmentId)
    (r' : Registry) : Prop where
  ne_empty : name ≠ ""
  notMem : name ∉ r.allNames
  entries_same : (r'.table c).entries = (r.table c).entries ++ [(name, fragment)]
  table_other : ∀ c', c' ≠ c → r'.table c' = r.table c'

theorem nameError?_eq_none_iff : r.nameError? name = none ↔ name ≠ "" ∧ name ∉ r.allNames := by
  rw [← contains_iff]
  unfold nameError?
  split <;> simp_all

/-- An insertion that does not fail adds the name at the end of its class. -/
theorem inserts_of_insert? (h : r.insert? c name fragment = .ok r') :
    r.Inserts c name fragment r' := by
  unfold insert? at h
  split at h
  · cases h
  · rename_i hfree
    obtain ⟨hne, hmem⟩ := nameError?_eq_none_iff.1 hfree
    have hmem' := hmem
    simp only [allNames, List.mem_append, not_or] at hmem'
    split at h
    · cases h
      refine ⟨hne, hmem, NameTable.entries_insert_of_not_mem hmem'.1, fun c' hc' => ?_⟩
      cases c'
      · exact absurd rfl hc'
      · rfl
    · cases h
      refine ⟨hne, hmem, NameTable.entries_insert_of_not_mem hmem'.2, fun c' hc' => ?_⟩
      cases c'
      · rfl
      · exact absurd rfl hc'

namespace Inserts

theorem grows (h : r.Inserts c name fragment r') : r.Grows r' := by
  intro c'
  by_cases hc : c' = c
  · subst hc
    rw [h.entries_same]
    exact List.prefix_append _ _
  · simp [h.table_other c' hc]

/-- One name more, at the place that its class gives it. -/
theorem allNames_perm (h : r.Inserts c name fragment r') :
    r'.allNames.Perm (name :: r.allNames) := by
  have hsame : (r'.table c).names = (r.table c).names ++ [name] := by
    simp [NameTable.names, h.entries_same]
  cases c
  · rw [allNames, hsame, h.table_other .group (by decide), List.append_assoc]
    exact List.perm_middle
  · rw [allNames, hsame, h.table_other .alias (by decide), ← List.append_assoc]
    exact List.perm_append_singleton name r.allNames

theorem isValid (h : r.Inserts c name fragment r') (hr : r.IsValid) : r'.IsValid where
  empty_notMem := by
    intro hmem
    rcases List.mem_cons.1 (h.allNames_perm.mem_iff.1 hmem) with heq | hmem
    · exact h.ne_empty heq.symm
    · exact hr.empty_notMem hmem
  nodup := h.allNames_perm.nodup_iff.2 (List.nodup_cons.2 ⟨h.notMem, hr.nodup⟩)

end Inserts

end Registry

end RegexComposition

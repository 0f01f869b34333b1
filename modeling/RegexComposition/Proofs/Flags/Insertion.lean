import Mathlib.Data.List.Induction
import Mathlib.Data.List.Nodup
import RegexComposition.Flags

/-!
# Inserting flags

Flags are inserted behind those that are there, and flags that are there already stay where they
are.  A set is therefore known from the list of all flags that were ever inserted.

Main results:

- `Flags.toList_insertAll`: flags are added behind the others, each where it comes first.
- `Flags.toList_ofList`: a set has each flag of a list where it comes first.
- `Flags.insertAll_twice`: flags that are inserted twice change nothing the second time.
- `Flags.ofList_append`: inserting flags into the set of a list.
- `Flags.withGlobal_ofList`: the global flag in front of the set of a list.
-/

namespace RegexComposition

namespace Flags

variable {flags flags' : Flags} {f : Flag} {fs gs : List Flag}

/-- Two sets with the same flags in the same order are the same. -/
theorem eq_of_toList_eq (h : flags.toList = flags'.toList) : flags = flags' := by
  cases flags
  cases flags'
  cases h
  rfl

/-! ## Many flags -/

theorem insertAll_append (flags : Flags) (fs gs : List Flag) :
    flags.insertAll (fs ++ gs) = (flags.insertAll fs).insertAll gs := List.foldl_append

theorem insertAll_singleton (flags : Flags) (f : Flag) : flags.insertAll [f] = flags.insert f := rfl

/-- The flags of a list are added to those that are there. -/
theorem mem_insertAll : f ∈ (flags.insertAll fs).toList ↔ f ∈ flags.toList ∨ f ∈ fs := by
  induction fs generalizing flags with
  | nil => simp [insertAll]
  | cons first fs ih =>
      have hrest : (flags.insert first).insertAll fs = flags.insertAll (first :: fs) := rfl
      rw [← hrest, ih, mem_insert, List.mem_cons, or_assoc]

/-- Flags that are there already change nothing. -/
theorem insertAll_of_mem (h : ∀ f ∈ fs, f ∈ flags.toList) : flags.insertAll fs = flags := by
  induction fs with
  | nil => rfl
  | cons f fs ih =>
      have hinsert : flags.insert f = flags := by rw [insert, dif_pos (h f List.mem_cons_self)]
      show (flags.insert f).insertAll fs = flags
      rw [hinsert]
      exact ih fun f hf => h f (List.mem_cons_of_mem _ hf)

/-- Flags that are inserted twice change nothing the second time. -/
theorem insertAll_twice (flags : Flags) (fs : List Flag) :
    flags.insertAll (fs ++ fs) = flags.insertAll fs := by
  rw [insertAll_append]
  exact insertAll_of_mem fun f hf => mem_insertAll.2 (Or.inr hf)

/-- Flags are added behind those that are there, each where it comes first. -/
theorem toList_insertAll (flags : Flags) (fs : List Flag) : (flags.insertAll fs).toList =
    flags.toList ++ (fs.filter (· ∉ flags.toList)).eraseDups := by
  induction fs generalizing flags with
  | nil => exact (List.append_nil _).symm
  | cons f fs ih =>
      have hcons : flags.insertAll (f :: fs) = (flags.insert f).insertAll fs := rfl
      rw [hcons, ih, toList_insert]
      by_cases hf : f ∈ flags.toList
      · rw [if_pos hf, List.filter_cons_of_neg (by simpa using hf)]
      · have hfresh : fs.filter (· ∉ flags.toList ++ [f]) =
            (fs.filter (· ∉ flags.toList)).filter (fun g => !g == f) := by
          rw [List.filter_filter]
          apply List.filter_congr
          intro g _
          by_cases hg : g = f <;> simp [hg]
        rw [if_neg hf, List.filter_cons_of_pos (by simpa using hf), List.eraseDups_cons, hfresh,
          List.append_assoc]
        rfl

/-! ## The set of a list -/

/-- A set has each flag of a list where it comes first. -/
theorem toList_ofList (fs : List Flag) : (ofList fs).toList = fs.eraseDups := by
  rw [ofList, toList_insertAll, List.filter_eq_self.2 fun f _ => by simp]
  rfl

theorem mem_ofList : f ∈ (ofList fs).toList ↔ f ∈ fs := by
  rw [toList_ofList, List.mem_eraseDups]

/-- Inserting flags into the set of a list makes the set of a longer list. -/
theorem ofList_append (fs gs : List Flag) : ofList (fs ++ gs) = (ofList fs).insertAll gs :=
  insertAll_append empty fs gs

/-- A list without repetitions is the list of its set. -/
theorem toList_ofList_of_nodup (h : fs.Nodup) : (ofList fs).toList = fs := by
  induction fs using List.reverseRecOn with
  | nil => rfl
  | append_singleton fs f ih =>
      obtain ⟨hf, hfs⟩ := (List.nodup_concat fs f).1 (List.concat_eq_append ▸ h)
      rw [ofList_append, insertAll_singleton, toList_insert, ih hfs, if_neg hf]

/-- A set is the set of its own flags. -/
theorem ofList_toList (flags : Flags) : ofList flags.toList = flags :=
  eq_of_toList_eq (toList_ofList_of_nodup flags.nodup)

/-! ## The global flag -/

/-- The global flag is the only one that is added. -/
theorem contains_withGlobal (hf : f ≠ .global) :
    flags.withGlobal.contains f = flags.contains f := by
  rw [Bool.eq_iff_iff, contains_iff, contains_iff, toList_withGlobal]
  split
  · rfl
  · rw [List.mem_cons, or_iff_right hf]

/-- A set that has the global flag stays as it is. -/
theorem withGlobal_of_mem (h : .global ∈ flags.toList) : flags.withGlobal = flags := by
  rw [withGlobal, dif_pos h]

/-- A missing global flag is put in front of all others. -/
theorem withGlobal_ofList (h : .global ∉ fs) : (ofList fs).withGlobal = ofList (.global :: fs) := by
  apply eq_of_toList_eq
  have hothers : fs.filter (fun f => !f == .global) = fs := by
    rw [List.filter_eq_self]
    intro f hf
    have hne : f ≠ .global := fun heq => h (heq ▸ hf)
    simpa using hne
  rw [toList_withGlobal, if_neg (mt mem_ofList.1 h), toList_ofList, toList_ofList,
    List.eraseDups_cons, hothers]

end Flags

end RegexComposition

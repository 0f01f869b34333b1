import RegexComposition.Proofs.Registry.Growth

/-!
# Looking names up

A name stands for the fragment of its entry.  Suffixes change how a fragment is used, not which
one it is, so that a name with suffixes always refers to a registered fragment.

Main results:

- `Registry.Registers`: some name stands for the fragment.
- `Registry.registers_of_resolve?`: a name with suffixes refers to a registered fragment.
- `Registry.IsValid.get?_eq_some`: each entry of a valid registry is found under its name.
-/

namespace RegexComposition

namespace NameTable

variable {entries : List (String × FragmentId)} {name : String} {id : FragmentId}

theorem mem_of_lookup_eq_some (h : entries.lookup name = some id) : (name, id) ∈ entries := by
  induction entries with
  | nil => cases h
  | cons entry entries ih =>
      obtain ⟨key, fragment⟩ := entry
      rw [List.lookup_cons] at h
      split at h
      · next heq =>
          obtain rfl := Option.some.inj h
          obtain rfl := eq_of_beq heq
          exact List.mem_cons_self
      · exact List.mem_cons_of_mem _ (ih h)

/-- Without repetitions every entry is found under its name. -/
theorem lookup_eq_some_of_mem (hnodup : (entries.map (·.1)).Nodup) (h : (name, id) ∈ entries) :
    entries.lookup name = some id := by
  induction entries with
  | nil => cases h
  | cons entry entries ih =>
      obtain ⟨key, fragment⟩ := entry
      rw [List.map_cons, List.nodup_cons] at hnodup
      rcases List.mem_cons.1 h with heq | hmem
      · cases heq
        simp
      · have hne : name ≠ key := by
          rintro rfl
          exact hnodup.1 (List.mem_map.2 ⟨(name, id), hmem, rfl⟩)
        rw [List.lookup_cons, beq_eq_false_iff_ne.2 hne]
        exact ih hnodup.2 hmem

end NameTable

namespace Registry

variable {r r' : Registry} {c : NameClass} {name : String} {id : FragmentId}

/-! ## Registered fragments -/

/-- Some name of the registry stands for the fragment. -/
def Registers (r : Registry) (id : FragmentId) : Prop :=
  ∃ c name, (name, id) ∈ (r.table c).entries

theorem not_registers_empty (id : FragmentId) : ¬ empty.Registers id := by
  rintro ⟨c, name, hmem⟩
  cases c <;> cases hmem

/-- An insertion registers the inserted fragment and no other. -/
theorem Inserts.registers_iff {fragment : FragmentId} (h : r.Inserts c name fragment r') :
    r'.Registers id ↔ id = fragment ∨ r.Registers id := by
  constructor
  · rintro ⟨c', name', hmem⟩
    by_cases hc : c' = c
    · subst hc
      rw [h.entries_same, List.mem_append, List.mem_singleton] at hmem
      rcases hmem with hmem | heq
      · exact .inr ⟨c', name', hmem⟩
      · exact .inl (congrArg Prod.snd heq)
    · rw [h.table_other c' hc] at hmem
      exact .inr ⟨c', name', hmem⟩
  · rintro (rfl | ⟨c', name', hmem⟩)
    · refine ⟨c, name, ?_⟩
      rw [h.entries_same]
      exact List.mem_append_right _ List.mem_cons_self
    · exact ⟨c', name', (h.grows c').subset hmem⟩

theorem containsFragment_iff : r.containsFragment id = true ↔ r.Registers id := by
  simp only [containsFragment, NameTable.fragments, Bool.or_eq_true, List.contains_iff_mem,
    List.mem_map, Prod.exists, exists_eq_right]
  constructor
  · rintro (⟨name, hmem⟩ | ⟨name, hmem⟩)
    · exact ⟨.alias, name, hmem⟩
    · exact ⟨.group, name, hmem⟩
  · rintro ⟨c, name, hmem⟩
    cases c
    · exact .inl ⟨name, hmem⟩
    · exact .inr ⟨name, hmem⟩

/-! ## Lookup -/

theorem registers_of_get? (h : r.get? name = some id) : r.Registers id := by
  rcases Option.or_eq_some_iff.1 h with halias | ⟨-, hgroup⟩
  · exact ⟨.alias, name, NameTable.mem_of_lookup_eq_some halias⟩
  · exact ⟨.group, name, NameTable.mem_of_lookup_eq_some hgroup⟩

theorem registers_of_resolveFrom {modifiers : Modifiers} {token : List Char}
    {resolution : Resolution} (h : r.resolveFrom modifiers token = some resolution) :
    r.Registers resolution.target := by
  fun_induction resolveFrom r modifiers token with
  | case1 modifiers token name target htarget =>
      obtain rfl := Option.some.inj h
      exact registers_of_get? htarget
  | case2 modifiers token name hname rest suffix hsplit ih => exact ih h
  | case3 => cases h

/-- A name with suffixes refers to a registered fragment. -/
theorem registers_of_resolve? {resolution : Resolution} (h : r.resolve? name = some resolution) :
    r.Registers resolution.target := registers_of_resolveFrom h

theorem exists_get?_of_mem (h : name ∈ r.allNames) : ∃ id, r.get? name = some id := by
  apply Option.isSome_iff_exists.1
  rw [get?, Option.isSome_or]
  exact contains_iff.2 h

/-- Each entry of a valid registry is found under its name. -/
theorem IsValid.get?_eq_some (hr : r.IsValid) (h : (name, id) ∈ (r.table c).entries) :
    r.get? name = some id := by
  obtain ⟨haliases, hgroups, hdisjoint⟩ := List.nodup_append.1 hr.nodup
  cases c
  · have hget : r.aliases.get? name = some id := NameTable.lookup_eq_some_of_mem haliases h
    rw [get?, hget, Option.some_or]
  · have hget : r.groups.get? name = some id := NameTable.lookup_eq_some_of_mem hgroups h
    have hmem : name ∈ r.groups.names := List.mem_map.2 ⟨(name, id), h, rfl⟩
    have hnot : ¬ r.aliases.contains name = true := fun hcontains =>
      hdisjoint name (NameTable.contains_iff.1 hcontains) name hmem rfl
    have hother : r.aliases.get? name = none := by
      simpa [NameTable.contains] using hnot
    rw [get?, hother, Option.none_or, hget]

/-- A registered name refers to its fragment, without any suffixes. -/
theorem resolve?_of_get? (h : r.get? name = some id) :
    r.resolve? name = some ⟨name, id, Modifiers.none⟩ := by
  rw [resolve?, resolveFrom]
  simp only [String.ofList_toList, h]

end Registry

end RegexComposition

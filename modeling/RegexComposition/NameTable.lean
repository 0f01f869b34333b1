import RegexComposition.Fragment.Graph

/-!
# Name tables

Fragments by name, in the order in which the names were first added.

Main definitions:

- `NameTable`, with `NameTable.get?` and `NameTable.insert`.
-/

namespace RegexComposition

/-- Fragments by name, in the order of their first insertion. -/
structure NameTable where
  entries : List (String × FragmentId)
  deriving Repr, DecidableEq

namespace NameTable

/-- The table without names. -/
def empty : NameTable := ⟨[]⟩

/-- The names in order. -/
def names (t : NameTable) : List String := t.entries.map (·.1)

/-- The fragments in the order of their names. -/
def fragments (t : NameTable) : List FragmentId := t.entries.map (·.2)

/-- The number of names. -/
def size (t : NameTable) : Nat := t.entries.length

/-- The fragment with the given name. -/
def get? (t : NameTable) (name : String) : Option FragmentId := t.entries.lookup name

/-- Whether the name is in the table. -/
def contains (t : NameTable) (name : String) : Bool := (t.get? name).isSome

/-- Gives a name a fragment: a new name goes to the end, one in the table keeps its place. -/
def insert (t : NameTable) (name : String) (fragment : FragmentId) : NameTable :=
  if t.contains name then
    ⟨t.entries.map fun entry => if entry.1 == name then (name, fragment) else entry⟩
  else ⟨t.entries ++ [(name, fragment)]⟩

/-- The table of a list of names and fragments, inserted in order. -/
def ofList (entries : List (String × FragmentId)) : NameTable :=
  entries.foldl (fun t entry => t.insert entry.1 entry.2) empty

theorem lookup_isSome_iff {entries : List (String × FragmentId)} {name : String} :
    (entries.lookup name).isSome = true ↔ name ∈ entries.map (·.1) := by
  induction entries with
  | nil => simp
  | cons entry rest ih =>
    obtain ⟨key, fragment⟩ := entry
    by_cases h : name = key
    · simp [h]
    · simp [h, ih, List.lookup_cons, beq_eq_false_iff_ne.2 h]

@[simp]
theorem contains_iff {t : NameTable} {name : String} : t.contains name = true ↔ name ∈ t.names :=
  lookup_isSome_iff

end NameTable

end RegexComposition

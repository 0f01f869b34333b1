import RegexComposition.NameTable
import RegexComposition.Registry.Suffix

/-!
# Registries

The names that the fragments of a builder go by.  Aliases are names for reuse; groups are also
what a capture reports.  No name is used twice.

Main definitions:

- `Registry`: the aliases and the groups.
- `Registry.insert?`: adds a name that is not empty and not in use.
- `Registry.resolve?`: finds the fragment of a name that may carry suffixes.
-/

namespace RegexComposition

/-- What a name is registered as. -/
inductive NameClass where
  | alias
  | group
  deriving Repr, DecidableEq

/-- The aliases and groups of a builder. -/
structure Registry where
  aliases : NameTable
  groups : NameTable
  deriving Repr, DecidableEq

/-- What a name with suffixes refers to. -/
structure Resolution where
  /-- The registered name without its suffixes. -/
  name : String
  target : FragmentId
  /-- The modifiers that the suffixes stand for. -/
  modifiers : Modifiers
  deriving Repr, DecidableEq

namespace Registry

/-- The registry without names. -/
def empty : Registry := ⟨NameTable.empty, NameTable.empty⟩

instance : Inhabited Registry := ⟨empty⟩

/-- Whether the name is in use. -/
def contains (r : Registry) (name : String) : Bool :=
  r.aliases.contains name || r.groups.contains name

/-- The fragment with the given name. -/
def get? (r : Registry) (name : String) : Option FragmentId :=
  (r.aliases.get? name).or (r.groups.get? name)

/-- Whether the fragment is registered under some name. -/
def containsFragment (r : Registry) (fragment : FragmentId) : Bool :=
  r.aliases.fragments.contains fragment || r.groups.fragments.contains fragment

/-- Why a name cannot be registered, if it cannot. -/
def nameError? (r : Registry) (name : String) : Option CompositionError :=
  if name = "" then some .emptyName
  else if r.contains name then some (.duplicateName name)
  else none

/-- Adds a name, unless it is empty or in use. -/
def insert? (r : Registry) (nameClass : NameClass) (name : String) (fragment : FragmentId) :
    Except CompositionError Registry :=
  match r.nameError? name with
  | some e => .error e
  | none =>
    match nameClass with
    | .alias => .ok { r with aliases := r.aliases.insert name fragment }
    | .group => .ok { r with groups := r.groups.insert name fragment }

/-- Finds the fragment of a name, taking off suffixes one at a time until the rest is
registered.  Suffixes already taken off have left `modifiers`. -/
def resolveFrom (r : Registry) (modifiers : Modifiers) (token : List Char) : Option Resolution :=
  let name := String.ofList token
  match r.get? name with
  | some target => some ⟨name, target, modifiers⟩
  | none =>
    match _h : Suffix.split? token with
    | some (rest, suffix) => r.resolveFrom (modifiers.merge suffix.modifiers) rest
    | none => none
  termination_by token.length
  decreasing_by exact Suffix.length_lt_of_split? _h

/-- Finds the fragment of a name that may carry suffixes.  A registered name is taken as it stands;
otherwise suffixes are taken off from the right until what is left is registered, `*?` and `+?` as
one suffix each. -/
def resolve? (r : Registry) (token : String) : Option Resolution :=
  r.resolveFrom Modifiers.none token.toList

/-- The name that the next skipped group would get if `number` were free, otherwise the one of the
next free number within `budget` steps. -/
def skipNameFrom (r : Registry) : (budget : Nat) → (number : Nat) → String
  | 0, number => "group_that_is_skipped_" ++ toString number
  | budget + 1, number =>
    let name := "group_that_is_skipped_" ++ toString number
    if r.contains name then r.skipNameFrom budget (number + 1) else name

/-- A free name for a skipped group.  No more names can be taken than are registered. -/
def skipName (r : Registry) : String :=
  r.skipNameFrom (r.aliases.size + r.groups.size) (r.groups.size + 1)

end Registry

end RegexComposition

import RegexComposition.Pattern.Assembly

/-!
# Reading a pattern

A pattern source is read twice: first for the names of its groups, of which no two may be the
same, then token by token.

Main definitions:

- `Program`: a pattern ready to be matched, with the names of its groups.
- `Program.read`: reads a source under a set of flags.
-/

namespace RegexComposition

/-- A pattern that has been read: its tree, and its capturing groups with their names. -/
structure Program where
  pattern : Pattern
  groups : List (Option String)
  deriving Repr, DecidableEq

namespace Program

/-- The index of the group with the given name; groups are counted from 1. -/
def groupIndex? (p : Program) (name : String) : Option Nat :=
  (p.groups.findIdx? (· == some name)).map (· + 1)

/-- Reads a pattern source under a set of flags. -/
def read (source : String) (flags : Flags) : Except PatternError Program := do
  let chars := source.toList
  let groups := GroupName.declared chars
  if ¬ (groups.filterMap id).Nodup then
    throw .duplicateGroupName
  let modes := Modes.ofFlags flags
  let pattern ← Pattern.ofTokens? modes (Token.ofSource ⟨modes.unicode, groups⟩ chars)
  return ⟨pattern, groups⟩

end Program

end RegexComposition

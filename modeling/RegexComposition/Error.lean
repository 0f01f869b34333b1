import RegexComposition.Flags
import RegexComposition.Pattern.Error

/-!
# Errors

Everything that can go wrong while fragments are named, combined, compiled and used.

Main definitions:

- `CompositionError`: the causes.
- `CompositionError.message`: their wording.
-/

namespace RegexComposition

/-- The two ways of using the text in front of a match: matching it, or looking behind it. -/
inductive UntilDirection where
  | ahead
  | behind
  deriving Repr, DecidableEq

/-- Why an operation on fragments fails. -/
inductive CompositionError where
  /-- An alias or group was to be registered without a name. -/
  | emptyName
  /-- An alias or group was to be registered under a name in use. -/
  | duplicateName (name : String)
  /-- No alias or group can be read out of a name. -/
  | notFound (name : String)
  /-- A forward reference stands where a single value is needed. -/
  | misplacedUntil (direction : UntilDirection)
  /-- Nothing is left of a group name that could name a group in a pattern. -/
  | unusableGroupName (name : String)
  | invalidFlags (cause : FlagsError)
  | invalidPattern (source : String) (cause : PatternError)
  /-- A group gets the same name in the pattern as an earlier one. -/
  | duplicateCaptureName (name : String)
  /-- A fragment has a descendant more than so many levels down. -/
  | nestingTooDeep (limit : Nat)
  deriving Repr, DecidableEq

/-- The wording of an error. -/
def CompositionError.message : CompositionError → String
  | emptyName => "The name of an alias or group cannot be empty."
  | duplicateName name => "The name \"" ++ name ++ "\" is already registered."
  | notFound name => "Could not find an alias or group for \"" ++ name ++ "\"."
  | misplacedUntil .ahead =>
    "Invalid argument: \"until\" is only allowed in an argument list."
  | misplacedUntil .behind =>
    "Invalid argument: \"behind until\" is only allowed in an argument list."
  | unusableGroupName name =>
    "Invalid argument: the group name \"" ++ name ++
      "\" has no character usable in a native group name"
  | invalidFlags cause => cause.message
  | invalidPattern source cause => "Invalid pattern /" ++ source ++ "/: " ++ cause.message
  | duplicateCaptureName name =>
    "The group name \"" ++ name ++ "\" clashes with another group once sanitized."
  | nestingTooDeep limit =>
    "The fragment is nested deeper than " ++ toString limit ++ " levels."

end RegexComposition

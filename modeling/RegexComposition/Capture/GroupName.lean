import RegexComposition.Literal
import RegexComposition.Unicode.Properties

/-!
# Native group names

A registered name can be any text, but a group in a pattern needs an identifier for a name.

Main definitions:

- `nativeGroupName`: the identifier made of a registered name; it can be empty.
-/

namespace RegexComposition

/-- The word for a decimal digit. -/
def digitWord? : Char → Option String
  | '0' => some "zero"
  | '1' => some "one"
  | '2' => some "two"
  | '3' => some "three"
  | '4' => some "four"
  | '5' => some "five"
  | '6' => some "six"
  | '7' => some "seven"
  | '8' => some "eight"
  | '9' => some "nine"
  | _ => none

/-- What a character of a registered name becomes: meta characters vanish, white space becomes a
low line, a digit is spelled out, and of the rest only the low line and alphabetic characters
stay. -/
def nativeNamePart (c : Char) : List Char :=
  if isMetaCharacter c then []
  else if Unicode.isWhiteSpace c.toNat then ['_']
  else
    match digitWord? c with
    | some word => word.toList
    | none => if c == '_' || Unicode.isAlphabetic c.toNat then [c] else []

/-- The identifier made of a registered name. -/
def nativeGroupName (name : String) : String :=
  String.ofList (name.toList.flatMap nativeNamePart)

end RegexComposition

import RegexComposition.Decimal.Positional

/-!
# Literals

Values that are matched as plain text.  Characters with a meaning in a pattern are escaped; a
pair of backslashes in the text counts as one that is escaped already.

Main definitions:

- `metaCharacters`: the characters that are escaped.
- `escapeLiteral`: the pattern source of a text.
- `Literal`: the values, with their text in `Literal.text` and their printed form in
  `Literal.render`.
-/

namespace RegexComposition

/-! ## Escaping -/

/-- The characters that are escaped to be matched as themselves. -/
def metaCharacters : List Char :=
  ['\\', '/', '^', '$', '.', '|', '?', '*', '+', '(', ')', '[', ']', '\x7b', '\x7d', '-']

/-- Whether the character is escaped to be matched as itself. -/
def isMetaCharacter (c : Char) : Bool := metaCharacters.contains c

/-- Puts a backslash in front of every meta character, except that a pair of backslashes stays
as it is. -/
def escapeChars : List Char → List Char
  | '\\' :: '\\' :: rest => '\\' :: '\\' :: escapeChars rest
  | c :: rest => if isMetaCharacter c then '\\' :: c :: escapeChars rest else c :: escapeChars rest
  | [] => []

/-- The pattern source that matches a text. -/
def escapeLiteral (text : String) : String := String.ofList (escapeChars text.toList)

/-! ## Values -/

/-- A value to be matched as plain text. -/
inductive Literal where
  | text (value : String)
  | integer (value : Int)
  | float (value : Float)
  | boolean (value : Bool)

namespace Literal

/-- The text that is matched. -/
def plainText : Literal → String
  | text s => s
  | integer i => toString i
  | float x => floatText x
  | boolean true => "true"
  | boolean false => "false"

/-- The printed form: a text stands in quotation marks. -/
def render : Literal → String
  | text s => "\"" ++ s ++ "\""
  | l => l.plainText

/-- The pattern source that matches the literal. -/
def source (l : Literal) : String := escapeLiteral l.plainText

/-- A character as a text. -/
def ofChar (c : Char) : Literal := text c.toString

/-- A signed word as an integer. -/
def ofInt32 (i : Int32) : Literal := integer i.toInt

/-- An unsigned word as an integer. -/
def ofUInt32 (i : UInt32) : Literal := integer i.toNat

end Literal

end RegexComposition

import RegexComposition.Pattern

/-!
# Texts

The text that a pattern is matched against, with positions counted in characters.  Answers
for the outside count UTF-8 bytes, which `Text.byteOffset` computes.

Main definitions:

- `Text`: the characters of a string; `Text.next?` reads one in either direction.
- `Span`: a range of positions.
- `Text.byteOffset` and `Text.slice`: the bytes in front of a position, the string of a span.
-/

namespace RegexComposition

/-- A range of positions in a text, the last one excluded. -/
structure Span where
  start : Nat
  stop : Nat
  deriving Repr, DecidableEq

namespace Span

/-- The range between two positions, whichever comes first in the given direction. -/
def between (d : Direction) (source target : Nat) : Span :=
  match d with
  | .forward => ⟨source, target⟩
  | .backward => ⟨target, source⟩

/-- The number of characters in the range. -/
def length (s : Span) : Nat := s.stop - s.start

end Span

/-- The characters of a text. -/
structure Text where
  chars : Array Char
  deriving Repr, DecidableEq

namespace Text

/-- The characters of a string. -/
def ofString (s : String) : Text := ⟨s.toList.toArray⟩

/-- The number of characters. -/
def size (t : Text) : Nat := t.chars.size

/-- The character next to a position in the given direction. -/
def next? (t : Text) (d : Direction) (position : Nat) : Option Char :=
  match d with
  | .forward => t.chars[position]?
  | .backward => if position = 0 then none else t.chars[position - 1]?

/-- How many characters lie ahead of a position in the given direction. -/
def remaining (t : Text) (d : Direction) (position : Nat) : Nat :=
  match d with
  | .forward => t.size - position
  | .backward => position

/-- The characters of a range. -/
def charsOf (t : Text) (s : Span) : List Char := (t.chars.extract s.start s.stop).toList

/-- The string of a range. -/
def slice (t : Text) (s : Span) : String := String.ofList (t.charsOf s)

/-- The number of UTF-8 bytes of a list of characters. -/
def utf8Length : List Char → Nat
  | [] => 0
  | c :: rest => c.utf8Size + utf8Length rest

@[simp]
theorem utf8Length_append (l r : List Char) :
    utf8Length (l ++ r) = utf8Length l + utf8Length r := by
  induction l with
  | nil => simp [utf8Length]
  | cons c l ih => simp [utf8Length, ih, Nat.add_assoc]

/-- The number of UTF-8 bytes in front of a position. -/
def byteOffset (t : Text) (position : Nat) : Nat := utf8Length (t.charsOf ⟨0, position⟩)

end Text

/-- The neighbour of a position in a direction. -/
def Direction.move (d : Direction) (position : Nat) : Nat :=
  match d with
  | .forward => position + 1
  | .backward => position - 1

end RegexComposition

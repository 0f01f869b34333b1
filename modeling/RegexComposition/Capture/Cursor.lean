import RegexComposition.Text

/-!
# Character cursors

Offsets in bytes are turned into offsets in characters by a cursor that moves forward through
the text and counts the characters it passes.

Main definitions:

- `CharCursor`: how far the cursor has come, in bytes and in characters.
- `CharCursor.offsetOf`: the number of characters in front of a byte offset.
-/

namespace RegexComposition

/-- A place in a text between two characters, and the characters after it. -/
structure CharCursor where
  /-- The whole text. -/
  text : List Char
  /-- The text after the cursor. -/
  rest : List Char
  bytes : Nat
  chars : Nat
  deriving Repr, DecidableEq

namespace CharCursor

/-- A cursor at the begin of a text. -/
def start (text : List Char) : CharCursor := ⟨text, text, 0, 0⟩

/-- How many characters at the start of a text lie in front of a byte offset. -/
def countTo (byte : Nat) : List Char → Nat
  | [] => 0
  | c :: rest => if c.utf8Size ≤ byte then countTo (byte - c.utf8Size) rest + 1 else 0

/-- The number of characters in front of a byte offset, and the cursor there.  For an offset
behind the cursor the characters are counted from the begin, and the cursor stays. -/
def offsetOf (c : CharCursor) (byte : Nat) : Nat × CharCursor :=
  if byte < c.bytes then (countTo byte c.text, c)
  else
    let passed := countTo (byte - c.bytes) c.rest
    let next := c.chars + passed
    (next, { c with rest := c.rest.drop passed, bytes := byte, chars := next })

end CharCursor

end RegexComposition

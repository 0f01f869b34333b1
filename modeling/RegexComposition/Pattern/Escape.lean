import RegexComposition.CharSet
import RegexComposition.Pattern.Error
import RegexComposition.Pattern.Numeral

/-!
# Escapes

What a backslash and the characters after it stand for, inside a character class and outside.
With the flag `u` only the listed escapes are allowed; without it almost every other character
stands for itself.

Main definitions:

- `Grammar`: the facts about the whole pattern source that decide how an escape is read.
- `Escape`: one code point, a category of characters, or an error.
- `Escape.readAt`: the escape after a backslash, and how many characters spell it.
-/

namespace RegexComposition

/-- What has to be known about a pattern source before it is read: whether the flag `u` is set,
and the capturing groups with their names. -/
structure Grammar where
  unicode : Bool
  groups : List (Option String)
  deriving Repr

namespace Grammar

/-- Whether some group has a name, so that `\k` is a reference. -/
def hasGroupNames (g : Grammar) : Bool := g.groups.any Option.isSome

/-- The index of the group with the given name; groups are counted from 1. -/
def groupIndex? (g : Grammar) (name : String) : Option Nat :=
  (g.groups.findIdx? (· == some name)).map (· + 1)

end Grammar

/-- What an escape stands for. -/
inductive Escape where
  | code (c : Nat)
  | category (k : CharCategory) (negated : Bool)
  | fault (e : PatternError)
  deriving Repr, DecidableEq

namespace Escape

/-- The category that a letter after a backslash stands for; a capital letter means its
complement. -/
def category? : Char → Option (CharCategory × Bool)
  | 'd' => some (.digit, false)
  | 'D' => some (.digit, true)
  | 's' => some (.space, false)
  | 'S' => some (.space, true)
  | 'w' => some (.word, false)
  | 'W' => some (.word, true)
  | _ => none

/-- The control character that a letter after a backslash stands for. -/
def control? : Char → Option Nat
  | 'f' => some 0x0C
  | 'n' => some 0x0A
  | 'r' => some 0x0D
  | 't' => some 0x09
  | 'v' => some 0x0B
  | _ => none

/-- The characters with a meaning in a pattern, which stand for themselves after a backslash
even with the flag `u`. -/
def isSyntaxCharacter (c : Char) : Bool :=
  ['^', '$', '\\', '.', '*', '+', '?', '(', ')', '[', ']', '{', '}', '|', '/'].contains c

/-- An ASCII letter. -/
def isAsciiLetter (c : Char) : Bool := ('a' ≤ c && c ≤ 'z') || ('A' ≤ c && c ≤ 'Z')

/-- A decimal digit or the low line, which name a control character inside a class. -/
def isControlDigit (c : Char) : Bool := ('0' ≤ c && c ≤ '9') || c == '_'

/-- The number of octal digits of an escape that starts with the given one: the code point does
not exceed 255. -/
def octalWidth (first : Char) : Nat := if first ≤ '3' then 3 else 2

/-- The property named between braces after `\p` or `\P`. -/
def readProperty (negated : Bool) (text : List Char) : Escape × Nat :=
  match text with
  | '{' :: inside =>
    let body := inside.takeWhile (· != '}')
    let name := body.takeWhile (· != '=')
    let value? := if body.contains '=' then some (body.drop (name.length + 1)) else none
    match UnicodeProperty.ofName? (String.ofList name) (value?.map String.ofList) with
    | some p =>
      if body.length < inside.length then (category (.property p) negated, body.length + 2)
      else (fault .invalidPropertyName, 0)
    | none => (fault .invalidPropertyName, 0)
  | _ => (fault .invalidPropertyStart, 0)

/-- The escape after `\c`: a control character named by a letter or, inside a class, by a digit.
Without one the backslash stands for itself. -/
def readControl (g : Grammar) (inClass : Bool) (text : List Char) : Escape × Nat :=
  match text with
  | c :: _ =>
    if isAsciiLetter c || (inClass && !g.unicode && isControlDigit c) then (code (c.toNat % 32), 2)
    else if g.unicode then (fault .invalidEscape, 0)
    else (code '\\'.toNat, 0)
  | [] => if g.unicode then (fault .invalidEscape, 0) else (code '\\'.toNat, 0)

/-- The escape that starts with a digit where no group is referred to: the character NUL, an
octal code point, or the digits 8 and 9 for themselves. -/
def readDigit (g : Grammar) (first : Char) (text : List Char) : Escape × Nat :=
  if g.unicode then
    if first = '0' ∧ (text.head?.bind (Numeral.digitValue? 10)).isNone then (code 0, 1)
    else (fault .invalidEscape, 0)
  else
    let (value, count) := Numeral.leadingNumber 8 (octalWidth first) (first :: text)
    if count = 0 then (code first.toNat, 1) else (code value, count)

/-- The escape that starts with the character `c` after the backslash and goes on with `text`,
and how many characters spell it from `c` on. -/
def readAt (g : Grammar) (inClass : Bool) (c : Char) (text : List Char) : Escape × Nat :=
  match category? c, control? c with
  | some (k, negated), _ => (category k negated, 1)
  | none, some value => (code value, 1)
  | none, none =>
    if inClass && c == 'b' then (code 0x08, 1)
    else if inClass && g.unicode && c == '-' then (code '-'.toNat, 1)
    else if c = 'c' then readControl g inClass text
    else if '0' ≤ c ∧ c ≤ '9' then readDigit g c text
    else if c = 'x' then
      match Numeral.hexOfWidth? 2 text with
      | some value => (code value, 3)
      | none => if g.unicode then (fault .invalidEscape, 0) else (code c.toNat, 1)
    else if c = 'u' then
      match Numeral.unicodeNumeral? g.unicode text with
      | some (value, count) => (code value, count + 1)
      | none => if g.unicode then (fault .invalidUnicodeEscape, 0) else (code c.toNat, 1)
    else if g.unicode && (c == 'p' || c == 'P') then
      let (escape, count) := readProperty (c == 'P') text
      (escape, count + 1)
    else if isSyntaxCharacter c then (code c.toNat, 1)
    else if g.unicode || (c == 'k' && g.hasGroupNames) then (fault .invalidEscape, 0)
    else (code c.toNat, 1)

end Escape

end RegexComposition

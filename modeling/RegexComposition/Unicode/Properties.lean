import RegexComposition.Unicode.Letters
import RegexComposition.Unicode.Numbers
import RegexComposition.Unicode.Marks

/-!
# Derived properties

Properties that are unions of the tables: alphabetic code points, and the code points that
may start or continue an identifier.  White space is a short list of its own.

Main definitions:

- `isAlphabetic`, `isWhiteSpace`: used to make group names out of free text.
- `isIdentifierStart`, `isIdentifierContinue`: the characters of a group name.
-/

namespace RegexComposition.Unicode

/-- Whether the code point is a letter, a letter-like number, a vowel sign or an enclosed letter. -/
def isAlphabetic (c : Nat) : Bool :=
  letters.contains c || letterNumbers.contains c || otherAlphabetic.contains c

/-- White space: the space, the line and page controls and the spaces of every width. -/
def isWhiteSpace (c : Nat) : Bool :=
  c == 0x20 || (0x09 ≤ c && c ≤ 0x0D) || c == 0x85 || c == 0xA0 || c == 0x1680 ||
    (0x2000 ≤ c && c ≤ 0x200A) || c == 0x2028 || c == 0x2029 || c == 0x202F || c == 0x205F ||
    c == 0x3000

/-- Whether an identifier may start with the code point: a letter or letter-like number, or one
of six symbols and marks kept for stability.  The vertical tilde is a letter that is reserved
for syntax. -/
def isIdentifierStart (c : Nat) : Bool :=
  ((letters.contains c || letterNumbers.contains c) && c != 0x2E2F) || c == 0x1885 || c == 0x1886 ||
    c == 0x2118 || c == 0x212E || c == 0x309B || c == 0x309C

/-- The connecting punctuation, general category Pc. -/
def isConnector (c : Nat) : Bool :=
  c == 0x5F || c == 0x203F || c == 0x2040 || c == 0x2054 || c == 0xFE33 || c == 0xFE34 ||
    (0xFE4D ≤ c && c ≤ 0xFE4F) || c == 0xFF3F

/-- Code points that are accepted inside an identifier for stability: middle dots, two rows of
digits and the two invisible joiners. -/
def isInnerPunctuation (c : Nat) : Bool :=
  c == 0xB7 || c == 0x387 || (0x1369 ≤ c && c ≤ 0x1371) || c == 0x19DA || c == 0x200C || c == 0x200D ||
    c == 0x30FB || c == 0xFF65

/-- Whether an identifier may contain the code point after its start: also marks, decimal digits
and connecting punctuation. -/
def isIdentifierContinue (c : Nat) : Bool :=
  isIdentifierStart c || marks.contains c || decimalDigits.contains c || isConnector c ||
    isInnerPunctuation c

end RegexComposition.Unicode

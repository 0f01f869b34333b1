/-!
# Numerals in a pattern

The numbers that a pattern source spells: decimal counts and references, octal and
hexadecimal code points, and pairs of surrogates.

Main definitions:

- `digitValue?`: the value of a digit in a base.
- `leadingNumber`: the number that a text starts with, and how many digits it has.
- `unicodeNumeral?`: the code point after `\u`.
-/

namespace RegexComposition.Numeral

/-- The value of an ASCII digit or letter as a digit in the given base. -/
def digitValue? (base : Nat) (c : Char) : Option Nat :=
  let value? :=
    if '0' ≤ c ∧ c ≤ '9' then some (c.toNat - '0'.toNat)
    else if 'a' ≤ c ∧ c ≤ 'z' then some (c.toNat - 'a'.toNat + 10)
    else if 'A' ≤ c ∧ c ≤ 'Z' then some (c.toNat - 'A'.toNat + 10)
    else none
  value?.filter (· < base)

/-- The values of the digits that a text starts with, at most `limit` of them. -/
def leadingDigits (base : Nat) : Nat → List Char → List Nat
  | limit + 1, c :: rest =>
    match digitValue? base c with
    | some d => d :: leadingDigits base limit rest
    | none => []
  | _, _ => []

/-- The number with the given digits, the most significant first. -/
def ofDigits (base : Nat) (digits : List Nat) : Nat :=
  digits.foldl (fun value d => value * base + d) 0

/-- The number that a text starts with and how many digits it has, at most `limit`. -/
def leadingNumber (base limit : Nat) (text : List Char) : Nat × Nat :=
  let digits := leadingDigits base limit text
  (ofDigits base digits, digits.length)

theorem length_leadingDigits_le (base limit : Nat) (text : List Char) :
    (leadingDigits base limit text).length ≤ text.length := by
  induction text generalizing limit with
  | nil => cases limit <;> simp [leadingDigits]
  | cons c rest ih =>
    cases limit with
    | zero => simp [leadingDigits]
    | succ limit =>
      rw [leadingDigits]
      split
      · simpa using ih limit
      · simp

/-- The hexadecimal number of exactly `width` digits that a text starts with. -/
def hexOfWidth? (width : Nat) (text : List Char) : Option Nat :=
  let (value, count) := leadingNumber 16 width text
  if count = width then some value else none

/-- The code point of a pair of surrogates. -/
def ofSurrogates? (lead trail : Nat) : Option Nat :=
  if 0xD800 ≤ lead ∧ lead ≤ 0xDBFF ∧ 0xDC00 ≤ trail ∧ trail ≤ 0xDFFF then
    some (0x10000 + (lead - 0xD800) * 0x400 + (trail - 0xDC00))
  else none

/-- The code point that the text after `\u` spells, and how many characters spell it: four
hexadecimal digits, a pair of surrogates in that form or, if allowed, any number of digits
in braces.  A pair is one code point with every flag, because the text that a pattern is matched
against has no single surrogates. -/
def unicodeNumeral? (braces : Bool) (text : List Char) : Option (Nat × Nat) :=
  match text with
  | '{' :: inside =>
    let (value, count) := leadingNumber 16 inside.length inside
    if braces && 0 < count && value ≤ 0x10FFFF && (inside.drop count).head? == some '}' then
      some (value, count + 2)
    else none
  | _ =>
    (hexOfWidth? 4 text).map fun lead =>
      match text.drop 4 with
      | '\\' :: 'u' :: next =>
        match (hexOfWidth? 4 next).bind (ofSurrogates? lead) with
        | some pair => (pair, 10)
        | none => (lead, 4)
      | _ => (lead, 4)

end RegexComposition.Numeral

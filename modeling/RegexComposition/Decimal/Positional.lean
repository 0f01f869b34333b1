import RegexComposition.Decimal.Shortest

/-!
# Positional notation

Floating point numbers are written in positional notation, never with an exponent: as many
zeros as needed, no point in an integer and no zero at the end of a fraction.

Main definitions:

- `Decimal.positional`: the text of a decimal.
- `floatText`: the text of any floating point number.
-/

namespace RegexComposition

namespace Decimal

/-- A number of zeros. -/
def zeros (n : Nat) : List Char := List.replicate n '0'

/-- The digits in front of the point and behind it. -/
def parts (d : Decimal) : List Char × List Char :=
  let digits := Nat.toDigits 10 d.digits
  if 0 ≤ d.exponent then (digits ++ zeros d.exponent.toNat, [])
  else
    let places := (-d.exponent).toNat
    let padded := zeros (places + 1 - digits.length) ++ digits
    (padded.take (padded.length - places), padded.drop (padded.length - places))

/-- Removes the zeros at the end. -/
def dropTrailingZeros (digits : List Char) : List Char :=
  (digits.reverse.dropWhile (· == '0')).reverse

/-- The text of a decimal in positional notation. -/
def positional (d : Decimal) : String :=
  let (whole, fraction) := d.parts
  match dropTrailingZeros fraction with
  | [] => String.ofList whole
  | places => String.ofList (whole ++ '.' :: places)

end Decimal

/-- The text of the number with the given 64 bits. -/
def floatTextOfBits (bits : Nat) : String :=
  let field := bits / Nat.pow 2 52 % Nat.pow 2 11
  let fraction := bits % Nat.pow 2 52
  let sign := if bits / Nat.pow 2 63 % 2 = 1 then "-" else ""
  if field = Nat.pow 2 11 - 1 then
    if fraction = 0 then sign ++ "inf" else "NaN"
  else if field = 0 ∧ fraction = 0 then sign ++ "0"
  else sign ++ (Binary64.ofFields field fraction).shortest.positional

/-- The text of a floating point number: the shortest decimal that reads back as it. -/
def floatText (x : Float) : String := floatTextOfBits x.toBits.toNat

end RegexComposition

/-!
# Shortest decimals

A floating point number stands for all real numbers that round to it.  Among the decimals in
that interval the one with the fewest digits is chosen, and of two with equally few digits the
nearer one.  The arithmetic is exact.

Main definitions:

- `Binary64`: a finite positive number as a mantissa and a power of two.
- `Decimal`: digits and a power of ten.
- `Binary64.shortest`: the decimal that is chosen.
-/

namespace RegexComposition

/-- A natural number times a power of ten. -/
structure Decimal where
  digits : Nat
  exponent : Int
  deriving Repr, DecidableEq

/-- A fraction of natural numbers. -/
structure Fraction where
  num : Nat
  den : Nat
  deriving Repr, DecidableEq

namespace Fraction

/-- The fraction divided by a power of ten. -/
def shift (f : Fraction) (exponent : Int) : Fraction :=
  if 0 ≤ exponent then ⟨f.num, f.den * Nat.pow 10 exponent.toNat⟩
  else ⟨f.num * Nat.pow 10 (-exponent).toNat, f.den⟩

/-- The largest power of ten that does not exceed the fraction, provided that it is at least
`10 ^ (-limit)`. -/
def decimalExponent (f : Fraction) (limit : Nat) : Int :=
  if f.den ≤ f.num then ((Nat.toDigits 10 (f.num / f.den)).length : Int) - 1
  else
    match (List.range (limit + 1)).find? fun j => f.den ≤ f.num * Nat.pow 10 j with
    | some j => -(j : Int)
    | none => -(limit : Int)

end Fraction

/-- The number `mantissa * 2 ^ exponent`; its mantissa has at most 53 binary digits. -/
structure Binary64 where
  mantissa : Nat
  exponent : Int
  deriving Repr, DecidableEq

namespace Binary64

/-- The smallest mantissa of a number with full precision. -/
def hiddenBit : Nat := Nat.pow 2 52

/-- The exponent of the numbers with the least precision. -/
def minExponent : Int := -1074

/-- The number with a biased exponent field and a fraction field. -/
def ofFields (field fraction : Nat) : Binary64 :=
  if field = 0 then ⟨fraction, minExponent⟩
  else ⟨hiddenBit + fraction, (field : Int) - 1 + minExponent⟩

/-- A count of quarters of the last binary place, as a fraction. -/
def quarters (b : Binary64) (count : Nat) : Fraction :=
  let e := b.exponent - 2
  if 0 ≤ e then ⟨count * Nat.pow 2 e.toNat, 1⟩ else ⟨count, Nat.pow 2 (-e).toNat⟩

/-- How many quarters of the last binary place the interval reaches down: half a place, or only a
quarter where the numbers below are twice as dense. -/
def reachDown (b : Binary64) : Nat :=
  if b.mantissa = hiddenBit ∧ minExponent < b.exponent then 1 else 2

/-- Whether `point` times a power of ten rounds to the number.  The ends of the interval belong
to it if the mantissa is even. -/
def roundsHere (b : Binary64) (point : Nat) (exponent : Int) : Bool :=
  let low := (b.quarters (4 * b.mantissa - b.reachDown)).shift exponent
  let high := (b.quarters (4 * b.mantissa + 2)).shift exponent
  if b.mantissa % 2 = 0 then low.num ≤ point * low.den && point * high.den ≤ high.num
  else low.num < point * low.den && point * high.den < high.num

/-- The nearest multiple of a power of ten that rounds to the number, if one does.  Of two that
are equally near the larger is taken. -/
def nearestOnGrid? (b : Binary64) (exponent : Int) : Option Decimal :=
  let scaled := (b.quarters (4 * b.mantissa)).shift exponent
  let below := scaled.num / scaled.den
  let fits := b.roundsHere below exponent
  let fitsAbove := b.roundsHere (below + 1) exponent
  let upper := scaled.den ≤ 2 * (scaled.num % scaled.den)
  if fitsAbove && (upper || !fits) then some ⟨below + 1, exponent⟩
  else if fits then some ⟨below, exponent⟩
  else none

/-- The decimal with the fewest digits that rounds to the number; 17 digits always suffice. -/
def shortest (b : Binary64) : Decimal :=
  let top := (b.quarters (4 * b.mantissa)).decimalExponent 330
  ((List.range 17).findSome? fun (n : Nat) => b.nearestOnGrid? (top - n)).getD ⟨b.mantissa, 0⟩

end Binary64

end RegexComposition

import RegexComposition.Pattern.Escape

/-!
# Character classes

The inside of square brackets: single characters, escapes and ranges.

Main definitions:

- `ClassAtom.readAll`: the atoms up to the closing bracket.
- `ClassAtom.items`: joins atoms around a hyphen into ranges.
-/

namespace RegexComposition

/-- A piece of a character class. -/
inductive ClassAtom where
  | code (c : Nat)
  /-- A hyphen that was not escaped. -/
  | hyphen
  | category (k : CharCategory) (negated : Bool)
  | fault (e : PatternError)
  deriving Repr, DecidableEq

namespace ClassAtom

/-- The atom that starts with the character `c`, and how many characters of `text` belong to
it. -/
def readAt (g : Grammar) (c : Char) (text : List Char) : ClassAtom × Nat :=
  if c = '-' then (hyphen, 0)
  else if c = '\\' then
    match text with
    | [] => (fault .unterminatedEscape, 0)
    | next :: rest =>
      match Escape.readAt g true next rest with
      | (.code c, n) => (code c, n)
      | (.category k negated, n) => (category k negated, n)
      | (.fault e, n) => (fault e, n)
  else (code c.toNat, 0)

/-- The atoms of a class after `skip` characters that belong to an atom already read, and how
many characters they take up with the closing bracket. -/
def readAll (g : Grammar) : List Char → Nat → List ClassAtom × Nat
  | [], _ => ([fault .unbalancedBracket], 0)
  | _ :: rest, skip + 1 =>
    let (atoms, n) := readAll g rest skip
    (atoms, n + 1)
  | c :: rest, 0 =>
    if c = ']' then ([], 1)
    else
      let (atom, extra) := readAt g c rest
      let (atoms, n) := readAll g rest extra
      (atom :: atoms, n + 1)

/-- The single code point that an atom stands for; a hyphen can stand for itself. -/
def code? : ClassAtom → Option Nat
  | code c => some c
  | hyphen => some '-'.toNat
  | category _ _ | fault _ => none

/-- An atom that is no end of a range. -/
def item : ClassAtom → Except PatternError ClassItem
  | code c => .ok (.single c)
  | hyphen => .ok (.single '-'.toNat)
  | category k negated => .ok (.category k negated)
  | fault e => .error e

/-- The items that two atoms with a hyphen between them stand for: a range, or the three of them
if one end is a category, which the flag `u` does not allow. -/
def rangeItems (unicode : Bool) (first last : ClassAtom) : Except PatternError (List ClassItem) :=
  match first.code?, last.code? with
  | some lo, some hi => if hi < lo then .error .rangeReversed else .ok [.range lo hi]
  | _, _ => do
    let a ← first.item
    let b ← last.item
    if unicode then .error .invalidRange else .ok [a, .single '-'.toNat, b]

/-- The items that the atoms of a class stand for, or the first error among them. -/
def items (unicode : Bool) : List ClassAtom → Except PatternError (List ClassItem)
  | first :: hyphen :: last :: rest => do
    let range ← rangeItems unicode first last
    return range ++ (← items unicode rest)
  | atom :: rest => do
    let i ← atom.item
    return i :: (← items unicode rest)
  | [] => .ok []

end ClassAtom

end RegexComposition

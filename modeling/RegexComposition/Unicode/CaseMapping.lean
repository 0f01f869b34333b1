/-!
# Case mappings

A case mapping sends each code point to one code point: to its upper case form, or to its
folded form.  Most code points stay as they are; the others form runs with one offset.

Main definitions:

- `CaseMapping.apply`: the image of a code point.
- `CaseMapping.equivalents`: all code points with the same image.
-/

namespace RegexComposition.Unicode

/-- Every `step`-th code point from `first` to `last`, moved by `offset`. -/
structure CaseRun where
  first : Nat
  last : Nat
  step : Nat
  offset : Int

namespace CaseRun

/-- Whether the run moves the code point. -/
def moves (r : CaseRun) (c : Nat) : Bool :=
  r.first ≤ c && c ≤ r.last && (c - r.first) % r.step == 0

/-- Where the run moves the code point. -/
def target (r : CaseRun) (c : Nat) : Nat := ((c : Int) + r.offset).toNat

/-- The code point that the run moves to `c`, if there is one. -/
def source? (r : CaseRun) (c : Nat) : Option Nat :=
  let s := ((c : Int) - r.offset).toNat
  if r.moves s && r.target s == c then some s else none

end CaseRun

/-- A mapping of code points, as the runs of those that it moves. -/
structure CaseMapping where
  runs : List CaseRun

namespace CaseMapping

/-- The image of a code point. -/
def apply (m : CaseMapping) (c : Nat) : Nat :=
  match m.runs.find? (·.moves c) with
  | some r => r.target c
  | none => c

/-- The code points whose image is that of `c`: the image itself unless it is moved on, and
every code point moved to it. -/
def equivalents (m : CaseMapping) (c : Nat) : List Nat :=
  let image := m.apply c
  let moved := m.runs.filterMap (·.source? image)
  if m.apply image == image then image :: moved else moved

end CaseMapping

end RegexComposition.Unicode

/-!
# Modifiers

How a fragment is repeated, made optional or negated where it is used.

Main definitions:

- `Modifiers`: the switches and the quantifier of a fragment.
- `Modifiers.merge`: adds the settings of another value.
- `Modifiers.render`: their printed form, negation excepted.
-/

namespace RegexComposition

/-- The switches and the quantifier of a fragment. -/
structure Modifiers where
  optional : Bool := false
  oneOrMore : Bool := false
  zeroOrMore : Bool := false
  quantifier : Option String := none
  negated : Bool := false
  deriving Repr, DecidableEq, Inhabited

namespace Modifiers

/-- Nothing is set. -/
def none : Modifiers := {}

/-- Whether nothing is set. -/
def isEmpty (m : Modifiers) : Bool :=
  !m.optional && !m.oneOrMore && !m.zeroOrMore && m.quantifier.isNone && !m.negated

/-- Adds the settings of `other`: a switch that is on stays on, and a quantifier of `other`
replaces the earlier one. -/
def merge (m other : Modifiers) : Modifiers where
  optional := m.optional || other.optional
  oneOrMore := m.oneOrMore || other.oneOrMore
  zeroOrMore := m.zeroOrMore || other.zeroOrMore
  quantifier := other.quantifier.or m.quantifier
  negated := m.negated || other.negated

/-- The suffix notation.  Zero or more together with optional is one lazy star. -/
def render (m : Modifiers) : String :=
  (if m.oneOrMore then "+" else "") ++
    (if m.zeroOrMore then (if m.optional then "*?" else "*") else "") ++
    m.quantifier.getD "" ++
    (if m.optional && !m.zeroOrMore then "?" else "")

@[simp]
theorem isEmpty_iff {m : Modifiers} : m.isEmpty = true ↔ m = none := by
  obtain ⟨a, b, c, q, e⟩ := m
  cases a <;> cases b <;> cases c <;> cases q <;> cases e <;> simp [isEmpty, none]

@[simp]
theorem merge_none (m : Modifiers) : m.merge none = m := by
  simp [merge, none]

@[simp]
theorem none_merge (m : Modifiers) : none.merge m = m := by
  simp [merge, none]

/-- Merging is associative: only the order of the values matters. -/
theorem merge_assoc (a b c : Modifiers) : (a.merge b).merge c = a.merge (b.merge c) := by
  simp [merge, Bool.or_assoc, Option.or_assoc]

end Modifiers

end RegexComposition

import RegexComposition.CharSet

/-!
# Patterns

The tree of a pattern: what a pattern source means, with the flags already distributed over
the leaves.

Main definitions:

- `Direction`: which way a pattern reads the text; a lookbehind reads backwards.
- `Pattern`: the tree.
- `Pattern.groups`: the capturing groups inside a pattern, which every new round of a
  repetition forgets.
-/

namespace RegexComposition

/-- Which way the text is read. -/
inductive Direction where
  | forward
  | backward
  deriving Repr, DecidableEq

/-- A condition on a place in the text that reads no character. -/
inductive Assertion where
  /-- The begin of the text or, with the flag `m`, of a line. -/
  | lineStart (multiline : Bool)
  /-- The end of the text or, with the flag `m`, of a line. -/
  | lineEnd (multiline : Bool)
  /-- Exactly one of the two neighbours is a word character, or not. -/
  | wordBoundary (mode : CaseMode) (negated : Bool)
  deriving Repr, DecidableEq

/-- How often a pattern is repeated; without a maximum there is no limit. -/
structure Quantifier where
  min : Nat
  max : Option Nat
  greedy : Bool
  deriving Repr, DecidableEq

/-- Whether a number of rounds is possible at all. -/
def Quantifier.isPossible (q : Quantifier) : Bool :=
  match q.max with
  | some max => q.min ≤ max
  | none => true

/-- The tree of a pattern. -/
inductive Pattern where
  /-- Matches the empty text. -/
  | empty
  /-- Matches one character of a set. -/
  | char (set : CharSet)
  /-- Matches the first pattern and then the second. -/
  | seq (first second : Pattern)
  /-- Matches the first pattern or, failing that, the second. -/
  | either (first second : Pattern)
  /-- Matches the body and records where it did. -/
  | group (index : Nat) (body : Pattern)
  /-- Matches the body several times in a row. -/
  | repeated (q : Quantifier) (body : Pattern)
  /-- Tests whether the body matches here in the given direction, or that it does not. -/
  | look (direction : Direction) (negated : Bool) (body : Pattern)
  /-- Tests a place in the text. -/
  | assertion (a : Assertion)
  /-- Matches what the group recorded, or the empty text if it recorded nothing. -/
  | backreference (mode : CaseMode) (group : Nat)
  deriving Repr, DecidableEq

namespace Pattern

/-- The capturing groups inside a pattern, in order of their opening parentheses. -/
def groups : Pattern → List Nat
  | seq p q | either p q => p.groups ++ q.groups
  | group i p => i :: p.groups
  | repeated _ p | look _ _ p => p.groups
  | empty | char _ | assertion _ | backreference _ _ => []

/-- The patterns of a list one after the other. -/
def sequence (ps : List Pattern) : Pattern := ps.foldr seq empty

/-- The patterns of a list and a last one as alternatives, tried in order. -/
def alternation (ps : List Pattern) (last : Pattern) : Pattern := ps.foldr either last

@[simp]
theorem groups_sequence (ps : List Pattern) : (sequence ps).groups = ps.flatMap groups := by
  induction ps with
  | nil => rfl
  | cons p ps ih => simpa [sequence, groups] using ih

@[simp]
theorem groups_alternation (ps : List Pattern) (last : Pattern) :
    (alternation ps last).groups = ps.flatMap groups ++ last.groups := by
  induction ps with
  | nil => rfl
  | cons p ps ih => simpa [alternation, groups] using ih

end Pattern

end RegexComposition

import RegexComposition.Text

/-!
# Matching

A pattern is matched against a text by backtracking: it passes each way of matching, in order
of preference, to a continuation, and takes the first that the continuation accepts.

Main definitions:

- `Captures`: what the capturing groups have recorded.
- `Place`: a position in the text together with the captures made on the way to it.
- `Pattern.run`: the matcher.
- `Pattern.matchAt` and `Pattern.search`: the preferred match at a position, and the leftmost
  match from a position on.
-/

namespace RegexComposition

/-! ## Captures -/

/-- What the capturing groups have recorded, the latest record first, at most one a group. -/
structure Captures where
  records : List (Nat × Span)
  deriving Repr, DecidableEq

namespace Captures

/-- No group has recorded anything. -/
def empty : Captures := ⟨[]⟩

/-- The range that a group recorded. -/
def get? (c : Captures) (group : Nat) : Option Span := c.records.lookup group

/-- Records a range for a group, in place of an earlier one. -/
def record (c : Captures) (group : Nat) (span : Span) : Captures :=
  ⟨(group, span) :: c.records.filter (·.1 != group)⟩

/-- Forgets what some groups recorded. -/
def forget (c : Captures) (groups : List Nat) : Captures :=
  match groups with
  | [] => c
  | _ => ⟨c.records.filter fun r => !groups.contains r.1⟩

@[simp]
theorem get?_empty (group : Nat) : empty.get? group = none := rfl

@[simp]
theorem get?_record_self (c : Captures) (group : Nat) (span : Span) :
    (c.record group span).get? group = some span := by
  simp [record, get?]

end Captures

/-- A position in the text and the captures made on the way to it. -/
structure Place where
  position : Nat
  captures : Captures
  deriving Repr, DecidableEq

namespace Place

/-- Moves past one character. -/
def move (p : Place) (d : Direction) : Place := { p with position := d.move p.position }

/-- Records the range between an earlier place and this one for a group. -/
def record (p : Place) (d : Direction) (group : Nat) (source : Place) : Place :=
  { p with captures := p.captures.record group (Span.between d source.position p.position) }

/-- Forgets what some groups recorded. -/
def forget (p : Place) (groups : List Nat) : Place :=
  { p with captures := p.captures.forget groups }

end Place

/-! ## Conditions on a position -/

namespace Text

/-- Whether the neighbour of a position in the given direction ends a line. -/
def endsLine (t : Text) (d : Direction) (position : Nat) : Bool :=
  match t.next? d position with
  | some c => lineTerminators.contains c.toNat
  | none => false

/-- Whether the neighbour of a position in the given direction is a word character. -/
def isWordAt (t : Text) (mode : CaseMode) (d : Direction) (position : Nat) : Bool :=
  match t.next? d position with
  | some c => mode.isWord c.toNat
  | none => false

/-- The position behind a sequence of characters, if the text goes on with characters that count
as equal to them. -/
def follow (t : Text) (mode : CaseMode) (d : Direction) : List Char → Nat → Option Nat
  | [], position => some position
  | c :: rest, position =>
    match t.next? d position with
    | some e =>
      if mode.canonical c.toNat == mode.canonical e.toNat then follow t mode d rest (d.move position)
      else none
    | none => none

end Text

/-- Whether the assertion holds at a position. -/
def Assertion.holds (t : Text) : Assertion → Nat → Bool
  | lineStart multiline, i => i == 0 || (multiline && t.endsLine .backward i)
  | lineEnd multiline, i => i == t.size || (multiline && t.endsLine .forward i)
  | wordBoundary mode negated, i =>
    negated != (t.isWordAt mode .backward i != t.isWordAt mode .forward i)

/-! ## Backtracking -/

/-- A continuation: what has to match after a pattern. -/
abbrev Continuation := Place → Option Place

/-- A fixed number of rounds of a pattern. -/
def requiredRounds (round : Continuation → Continuation) (k : Continuation) : Nat → Continuation
  | 0, p => k p
  | n + 1, p => round (fun q => requiredRounds round k n q) p

/-- Up to `budget` further rounds of a pattern: as many as possible if greedy, otherwise as few.
A round that reads nothing is no round. -/
def optionalRounds (round : Continuation → Continuation) (greedy : Bool) (k : Continuation) :
    Nat → Continuation
  | 0, p => k p
  | budget + 1, p =>
    let next := fun q =>
      if q.position = p.position then none else optionalRounds round greedy k budget q
    if greedy then
      match round next p with
      | some r => some r
      | none => k p
    else
      match k p with
      | some r => some r
      | none => round next p

namespace Quantifier

/-- How many rounds may follow the required ones.  No more than the characters that are left,
since each of these rounds reads one at least. -/
def budget (q : Quantifier) (remaining : Nat) : Nat :=
  match q.max with
  | some max => Nat.min (max - q.min) remaining
  | none => remaining

end Quantifier

namespace Pattern

/-- Matches the pattern from a place in the given direction, then the continuation. -/
def run (t : Text) : Pattern → Direction → Continuation → Continuation
  | empty, _, k, p => k p
  | char set, d, k, p =>
    match t.next? d p.position with
    | some c => if set.contains c then k (p.move d) else none
    | none => none
  | seq first second, .forward, k, p =>
    first.run t .forward (fun q => second.run t .forward k q) p
  | seq first second, .backward, k, p =>
    second.run t .backward (fun q => first.run t .backward k q) p
  | either first second, d, k, p =>
    match first.run t d k p with
    | some q => some q
    | none => second.run t d k p
  | group i body, d, k, p => body.run t d (fun q => k (q.record d i p)) p
  | repeated quantifier body, d, k, p =>
    let inner := body.groups
    let round := fun next p => body.run t d next (p.forget inner)
    let optional := fun p =>
      optionalRounds round quantifier.greedy k (quantifier.budget (t.remaining d p.position)) p
    requiredRounds round optional quantifier.min p
  | look direction negated body, _, k, p =>
    match body.run t direction some p with
    | some q => if negated then none else k { p with captures := q.captures }
    | none => if negated then k p else none
  | assertion a, _, k, p => if a.holds t p.position then k p else none
  | backreference mode i, d, k, p =>
    match p.captures.get? i with
    | none => k p
    | some span =>
      let chars := t.charsOf span
      let inOrder :=
        match d with
        | .forward => chars
        | .backward => chars.reverse
      match t.follow mode d inOrder p.position with
      | some position => k { p with position := position }
      | none => none

/-- The preferred match that starts at a position: where it ends and what it captured. -/
def matchAt (pattern : Pattern) (t : Text) (position : Nat) : Option Place :=
  pattern.run t .forward some ⟨position, Captures.empty⟩

/-- The first match among those that start at `position` and the next `count` positions, with its
start. -/
def search (pattern : Pattern) (t : Text) : (count : Nat) → (position : Nat) → Option (Nat × Place)
  | 0, position => (pattern.matchAt t position).map (position, ·)
  | count + 1, position =>
    match pattern.matchAt t position with
    | some p => some (position, p)
    | none => pattern.search t count (position + 1)

end Pattern

end RegexComposition

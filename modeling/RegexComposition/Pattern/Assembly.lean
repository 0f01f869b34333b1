import RegexComposition.Pattern.Token

/-!
# Assembling a pattern

The tokens of a pattern source are assembled into a tree from left to right.  Every open
parenthesis is a frame that collects the terms and alternatives read so far inside it.

Main definitions:

- `Modes`: the flags in force at a place of the source.
- `Assembly.step`: takes in one token, or reports why it cannot stand there.
- `Pattern.ofTokens?`: the tree of a list of tokens.
-/

namespace RegexComposition

/-- The flags that give characters and line ends their meaning; groups can change the first
three. -/
structure Modes where
  ignoreCase : Bool
  multiline : Bool
  dotAll : Bool
  unicode : Bool
  deriving Repr, DecidableEq

namespace Modes

/-- The modes that a set of flags asks for. -/
def ofFlags (flags : Flags) : Modes where
  ignoreCase := flags.contains .caseInsensitive
  multiline := flags.contains .multiline
  dotAll := flags.contains .dotAll
  unicode := flags.contains .unicode

/-- Sets the mode of a flag, if it is one that groups can change. -/
def set (m : Modes) (f : Flag) (value : Bool) : Modes :=
  match f with
  | .caseInsensitive => { m with ignoreCase := value }
  | .multiline => { m with multiline := value }
  | .dotAll => { m with dotAll := value }
  | .global | .unicode | .sticky => m

/-- How characters are compared: ignoring case means by folding with the flag `u` and by upper
case without it. -/
def caseMode (m : Modes) : CaseMode :=
  if m.ignoreCase then (if m.unicode then .folded else .upperCase) else .exact

/-- The modes inside a group. -/
def inside (m : Modes) : GroupKind → Modes
  | .modified on off => off.foldl (·.set · false) (on.foldl (·.set · true) m)
  | .capturing _ | .plain | .look _ _ => m

end Modes

/-- Whether a quantifier may follow. -/
inductive Quantifiable where
  /-- There is no term in front. -/
  | nothing
  /-- The term in front cannot be repeated. -/
  | forbidden
  | allowed
  deriving Repr, DecidableEq

/-- A parenthesis that is still open, or the whole pattern. -/
structure Frame where
  kind : GroupKind
  /-- The index of the group, if it is a capturing one. -/
  index : Nat
  modes : Modes
  /-- The finished alternatives, the latest first. -/
  branches : List Pattern
  /-- The terms of the current alternative, the latest first. -/
  terms : List Pattern
  follows : Quantifiable
  deriving Repr, DecidableEq

namespace Frame

/-- A frame in which nothing has been read. -/
def start (kind : GroupKind) (index : Nat) (modes : Modes) : Frame :=
  ⟨kind, index, modes, [], [], .nothing⟩

/-- The pattern read so far. -/
def body (f : Frame) : Pattern :=
  Pattern.alternation f.branches.reverse (Pattern.sequence f.terms.reverse)

/-- Adds a term. -/
def push (f : Frame) (p : Pattern) (follows : Quantifiable) : Frame :=
  { f with terms := p :: f.terms, follows := follows }

/-- Ends the current alternative. -/
def split (f : Frame) : Frame :=
  { f with
    branches := Pattern.sequence f.terms.reverse :: f.branches
    terms := []
    follows := .nothing }

/-- The term that a closed frame is in the frame around it. -/
def close (f : Frame) : Pattern :=
  match f.kind with
  | .capturing _ => .group f.index f.body
  | .plain | .modified _ _ => f.body
  | .look direction negated => .look direction negated f.body

/-- Whether the closed frame can be repeated: a lookbehind never, a lookahead only without the
flag `u`. -/
def closeFollows (f : Frame) : Quantifiable :=
  match f.kind with
  | .look .backward _ => .forbidden
  | .look .forward _ => if f.modes.unicode then .forbidden else .allowed
  | _ => .allowed

/-- Repeats the latest term. -/
def quantify (f : Frame) (q : Quantifier) : Frame :=
  match f.terms with
  | p :: rest => { f with terms := .repeated q p :: rest, follows := .nothing }
  | [] => f

end Frame

/-- A pattern in the making: the innermost open frame, the frames around it and the number of
capturing groups opened so far. -/
structure Assembly where
  current : Frame
  enclosing : List Frame
  groups : Nat
  deriving Repr, DecidableEq

namespace Assembly

/-- The assembly before the first token. -/
def start (modes : Modes) : Assembly := ⟨Frame.start .plain 0 modes, [], 0⟩

/-- Adds a term to the innermost frame. -/
def push (a : Assembly) (p : Pattern) (follows : Quantifiable) : Assembly :=
  { a with current := a.current.push p follows }

/-- Opens a frame; a capturing group gets the next index. -/
def openGroup (a : Assembly) (kind : GroupKind) : Assembly :=
  let groups :=
    match kind with
    | .capturing _ => a.groups + 1
    | _ => a.groups
  ⟨Frame.start kind groups (a.current.modes.inside kind), a.current :: a.enclosing, groups⟩

/-- Closes the innermost frame. -/
def closeGroup (a : Assembly) : Except PatternError Assembly :=
  match a.enclosing with
  | outer :: rest =>
    .ok { a with current := outer.push a.current.close a.current.closeFollows, enclosing := rest }
  | [] => .error .unbalancedParenthesis

/-- Repeats the latest term, if there is one that can be repeated. -/
def quantify (a : Assembly) (q : Quantifier) (braced : Bool) : Except PatternError Assembly :=
  match a.current.follows with
  | .nothing =>
    .error (if braced && !a.current.modes.unicode then .unexpectedBraces else .invalidAtom)
  | .forbidden => .error (if q.isPossible then .quantifierNotAllowed else .invalidQuantifier)
  | .allowed =>
    if q.isPossible then .ok { a with current := a.current.quantify q }
    else .error .invalidQuantifier

/-- Takes in one token.  The start and the end of a line cannot be repeated.  A word boundary can:
the engine lets a quantifier follow `\b` and `\B`, although the grammar of ECMAScript has no such
form. -/
def step (a : Assembly) : Token → Except PatternError Assembly
  | .set items negated => .ok (a.push (.char ⟨a.current.modes.caseMode, items, negated⟩) .allowed)
  | .dot => .ok (a.push (.char (CharSet.dot a.current.modes.dotAll)) .allowed)
  | .lineStart => .ok (a.push (.assertion (.lineStart a.current.modes.multiline)) .forbidden)
  | .lineEnd => .ok (a.push (.assertion (.lineEnd a.current.modes.multiline)) .forbidden)
  | .wordBoundary negated =>
    .ok (a.push (.assertion (.wordBoundary a.current.modes.caseMode negated)) .allowed)
  | .backreference i => .ok (a.push (.backreference a.current.modes.caseMode i) .allowed)
  | .opening kind => .ok (a.openGroup kind)
  | .closing => a.closeGroup
  | .bar => .ok { a with current := a.current.split }
  | .quantifier q braced => a.quantify q braced
  | .looseBrace =>
    .error (if a.current.follows = .nothing then .invalidAtom else .invalidQuantifier)
  | .fault e => .error e

/-- The finished pattern, if no parenthesis is left open. -/
def finish (a : Assembly) : Except PatternError Pattern :=
  match a.enclosing with
  | [] => .ok a.current.body
  | _ :: _ => .error .unbalancedParenthesis

end Assembly

/-- The tree of a list of tokens, read with the given modes. -/
def Pattern.ofTokens? (modes : Modes) (tokens : List Token) : Except PatternError Pattern := do
  (← tokens.foldlM Assembly.step (Assembly.start modes)).finish

end RegexComposition

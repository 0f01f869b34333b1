import RegexComposition.Error
import RegexComposition.Pattern.Matcher
import RegexComposition.Pattern.Reader
import RegexComposition.Pattern.SpelledName

/-!
# Regular expressions

A regular expression is a pattern source with flags that has been found valid.  Its matches in
a text are enumerated from left to right: the search for the next one starts where the last
one ended, or one character later if that was empty.  With the flag `y` the enumeration stops
at the first match that does not start where its search started.

Main definitions:

- `Regex.compile`: reads a pattern source.
- `Occurrence`: a match as a range of characters with its captures; `Regex.occurrences`.
- `Match` and `MatchGroups`: a match for the outside, in UTF-8 bytes; `Regex.matchesIn` and
  `Regex.capturesIn`.
-/

namespace RegexComposition

/-! ## Occurrences -/

/-- A match in a text, counted in characters. -/
structure Occurrence where
  span : Span
  captures : Captures
  deriving Repr, DecidableEq

namespace Occurrence

/-- Where the search for the next match starts. -/
def resume (o : Occurrence) : Nat :=
  if o.span.start = o.span.stop then o.span.stop + 1 else o.span.stop

/-- The longest start of a list of matches in which each match starts where the one before it
lets the search resume, and the first one at `expected`. -/
def takeAdjacent (expected : Nat) : List Occurrence → List Occurrence
  | [] => []
  | o :: rest => if o.span.start = expected then o :: takeAdjacent o.resume rest else []

end Occurrence

namespace Pattern

/-- The matches from a position on, at most `budget` of them. -/
def occurrencesFrom (p : Pattern) (t : Text) : (budget : Nat) → (position : Nat) → List Occurrence
  | 0, _ => []
  | budget + 1, position =>
    if t.size < position then []
    else
      match p.search t (t.size - position) position with
      | none => []
      | some (start, place) =>
        let o : Occurrence := ⟨⟨start, place.position⟩, place.captures⟩
        o :: p.occurrencesFrom t budget o.resume

/-- All matches in a text.  Each starts further right than the one before, so there is at most
one for every position. -/
def occurrences (p : Pattern) (t : Text) : List Occurrence := p.occurrencesFrom t (t.size + 1) 0

end Pattern

/-! ## Matches for the outside -/

/-- A match or what a group captured, as a range of UTF-8 bytes with its text. -/
structure Match where
  start : Nat
  stop : Nat
  name : Option String
  value : String
  deriving Repr, DecidableEq

namespace Match

/-- The number of bytes matched. -/
def length (m : Match) : Nat := m.stop - m.start

/-- Whether the empty text was matched. -/
def isEmpty (m : Match) : Bool := m.length == 0

/-- The match of a range of characters. -/
def ofSpan (t : Text) (name : Option String) (s : Span) : Match :=
  ⟨t.byteOffset s.start, t.byteOffset s.stop, name, t.slice s⟩

end Match

/-- Why the text of a group cannot be given. -/
inductive LookupError where
  | noSuchIndex (index count : Nat)
  | noSuchName (name : String)
  deriving Repr, DecidableEq

/-- The wording of a lookup error. -/
def LookupError.message : LookupError → String
  | noSuchIndex index count =>
    "Index " ++ toString index ++ " is out of range of the capture group or did not " ++
      "participate, the length of capture groups is " ++ toString count ++ "."
  | noSuchName name => "Cannot find the capture group named \"" ++ name ++ "\"."

/-- A match with its groups.  Group 0 is the whole match; a group that did not take part is
`none`. -/
structure MatchGroups where
  groups : List (Option Match)
  deriving Repr, DecidableEq

namespace MatchGroups

/-- The number of groups, the whole match included. -/
def size (g : MatchGroups) : Nat := g.groups.length

/-- Whether there are no groups at all. -/
def isEmpty (g : MatchGroups) : Bool := g.size == 0

/-- What the group with the given index matched. -/
def get? (g : MatchGroups) (index : Nat) : Option Match := g.groups[index]?.join

/-- What the first group with the given name matched that took part. -/
def named? (g : MatchGroups) (name : String) : Option Match :=
  (g.groups.filterMap id).find? (·.name == some name)

/-- The text of the group with the given index. -/
def value (g : MatchGroups) (index : Nat) : Except LookupError String :=
  match g.get? index with
  | some m => .ok m.value
  | none => .error (.noSuchIndex index g.size)

/-- The text of the group with the given name. -/
def namedValue (g : MatchGroups) (name : String) : Except LookupError String :=
  match g.named? name with
  | some m => .ok m.value
  | none => .error (.noSuchName name)

end MatchGroups

/-! ## Regular expressions -/

/-- A valid pattern source with its flags. -/
structure Regex where
  source : String
  flags : Flags
  program : Program
  /-- The names of the capturing groups as the source spells them. -/
  groupNames : List (Option String)
  deriving DecidableEq

namespace Regex

/-- Reads a pattern source under a set of flags. -/
def compile (source : String) (flags : Flags) : Except CompositionError Regex :=
  match Program.read source flags with
  | .ok program => .ok ⟨source, flags, program, SpelledName.ofSource source⟩
  | .error cause => .error (.invalidPattern source cause)

/-- Whether each match has to start where the last one ended. -/
def isSticky (r : Regex) : Bool := r.flags.contains .sticky

/-- The matches in a text, counted in characters. -/
def occurrences (r : Regex) (t : Text) : List Occurrence :=
  if r.isSticky then Occurrence.takeAdjacent 0 (r.program.pattern.occurrences t)
  else r.program.pattern.occurrences t

/-- The name of the group with the given index. -/
def groupName? (r : Regex) (index : Nat) : Option String :=
  match index with
  | 0 => none
  | i + 1 => r.groupNames[i]?.join

/-- The groups of a match. -/
def groupsOf (r : Regex) (t : Text) (o : Occurrence) : MatchGroups :=
  ⟨some (Match.ofSpan t none o.span) ::
    (List.range' 1 r.program.groups.length).map fun i =>
      (o.captures.get? i).map (Match.ofSpan t (r.groupName? i))⟩

/-- All matches in a text. -/
def matchesIn (r : Regex) (text : String) : List Match :=
  let t := Text.ofString text
  (r.occurrences t).map fun o => Match.ofSpan t none o.span

/-- All matches in a text with their groups. -/
def capturesIn (r : Regex) (text : String) : List MatchGroups :=
  let t := Text.ofString text
  (r.occurrences t).map (r.groupsOf t)

/-- The first match in a text. -/
def find? (r : Regex) (text : String) : Option Match := (r.matchesIn text).head?

/-- Whether there is a match in a text. -/
def isMatch (r : Regex) (text : String) : Bool := (r.find? text).isSome

end Regex

end RegexComposition

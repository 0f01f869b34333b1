import RegexComposition.Flags
import RegexComposition.Pattern
import RegexComposition.Pattern.ClassBody
import RegexComposition.Pattern.GroupName

/-!
# Tokens

A pattern source falls into tokens from left to right: characters and classes, tests of a
place, parentheses, bars and quantifiers.  A token that cannot be read is a fault, kept in
its place, because a problem further left is reported first.

Main definitions:

- `Token`: the tokens, with the group kinds in `GroupKind`.
- `Token.readAt`: the token that starts with a character, and how many more belong to it.
- `Token.ofSource`: all tokens of a source.
-/

namespace RegexComposition

/-- What an opening parenthesis opens. -/
inductive GroupKind where
  | capturing (name : Option String)
  | plain
  /-- A group in which some flags are switched on and others off. -/
  | modified (on off : List Flag)
  | look (direction : Direction) (negated : Bool)
  deriving Repr, DecidableEq

/-- A piece of a pattern source. -/
inductive Token where
  | set (items : List ClassItem) (negated : Bool)
  | dot
  | lineStart
  | lineEnd
  | wordBoundary (negated : Bool)
  | backreference (group : Nat)
  | opening (kind : GroupKind)
  | closing
  | bar
  | quantifier (q : Quantifier) (braced : Bool)
  /-- A brace that starts no quantifier although it would have to. -/
  | looseBrace
  | fault (e : PatternError)
  deriving Repr, DecidableEq

namespace Token

/-- The token of a character that stands for itself. -/
def literal (c : Nat) : Token := set [.single c] false

/-! ## Escapes and classes -/

/-- The token of an escape. -/
def ofEscape : Escape → Token
  | .code c => literal c
  | .category k negated => set [.category k negated] false
  | .fault e => fault e

/-- The reference by name after `\k`. -/
def readNamedReference (g : Grammar) (text : List Char) : Token × Nat :=
  match text with
  | '<' :: inside =>
    match GroupName.read? inside with
    | some (name, n) =>
      match g.groupIndex? name with
      | some i => (backreference i, n + 1)
      | none => (fault (.unknownGroupName name), 0)
    | none => (fault .incompleteNamedReference, 0)
  | _ => (fault .incompleteNamedReference, 0)

/-- The token of the escape that starts with `c` after the backslash, and how many characters
spell it from `c` on.  A number refers to a group if there are that many groups. -/
def readEscape (g : Grammar) (c : Char) (text : List Char) : Token × Nat :=
  if c = 'b' then (wordBoundary false, 1)
  else if c = 'B' then (wordBoundary true, 1)
  else if c == 'k' && (g.unicode || g.hasGroupNames) then
    let (token, n) := readNamedReference g text
    (token, n + 1)
  else if '1' ≤ c ∧ c ≤ '9' then
    let (number, count) := Numeral.leadingNumber 10 (text.length + 1) (c :: text)
    if number ≤ g.groups.length then (backreference number, count)
    else if g.unicode then (fault .invalidEscape, 0)
    else
      let (escape, n) := Escape.readAt g false c text
      (ofEscape escape, n)
  else
    let (escape, n) := Escape.readAt g false c text
    (ofEscape escape, n)

/-- The class after an opening bracket, and how many characters it takes up with the closing
one. -/
def readClass (g : Grammar) (text : List Char) : Token × Nat :=
  let (negated, inside) :=
    match text with
    | '^' :: inside => (true, inside)
    | _ => (false, text)
  let (atoms, n) := ClassAtom.readAll g inside 0
  match ClassAtom.items g.unicode atoms with
  | .ok items => (set items negated, if negated then n + 1 else n)
  | .error e => (fault e, n)

/-! ## Groups -/

/-- The flags that a group can switch. -/
def modifierFlag? : Char → Option Flag
  | 'i' => some .caseInsensitive
  | 'm' => some .multiline
  | 's' => some .dotAll
  | _ => none

/-- The flags switched by a group, as in `(?i-s:`, and how many characters name them with the
colon.  At least one flag is named and none twice. -/
def readModifiers? (text : List Char) : Option (GroupKind × Nat) :=
  let body := text.takeWhile (· != ':')
  let onLetters := body.takeWhile (· != '-')
  let offLetters := body.drop (onLetters.length + 1)
  match onLetters.mapM modifierFlag?, offLetters.mapM modifierFlag? with
  | some on, some off =>
    if body.length < text.length ∧ on ++ off ≠ [] ∧ (on ++ off).Nodup then
      some (.modified on off, body.length + 1)
    else none
  | _, _ => none

/-- The opening of a group after its parenthesis, and how many more characters belong to it. -/
def readOpening (text : List Char) : Token × Nat :=
  match text with
  | '?' :: ':' :: _ => (opening .plain, 2)
  | '?' :: '=' :: _ => (opening (.look .forward false), 2)
  | '?' :: '!' :: _ => (opening (.look .forward true), 2)
  | '?' :: '<' :: '=' :: _ => (opening (.look .backward false), 3)
  | '?' :: '<' :: '!' :: _ => (opening (.look .backward true), 3)
  | '?' :: '<' :: inside =>
    match GroupName.read? inside with
    | some (name, n) => (opening (.capturing (some name)), n + 2)
    | none => (fault .invalidGroupName, 0)
  | '?' :: modifiers =>
    match readModifiers? modifiers with
    | some (kind, n) => (opening kind, n + 1)
    | none => (fault .invalidGroupModifier, 0)
  | _ => (opening (.capturing none), 0)

/-! ## Quantifiers -/

/-- The counts after an opening brace, and how many characters they take up with the closing
one: `n`, `n` and a comma, or `n`, a comma and `m`. -/
def readCounts? (text : List Char) : Option (Nat × Option Nat × Nat) :=
  match Numeral.leadingNumber 10 text.length text with
  | (_, 0) => none
  | (min, n) =>
    match text.drop n with
    | '}' :: _ => some (min, some min, n + 1)
    | ',' :: '}' :: _ => some (min, none, n + 2)
    | ',' :: rest =>
      match Numeral.leadingNumber 10 rest.length rest with
      | (_, 0) => none
      | (max, m) => if (rest.drop m).head? = some '}' then some (min, some max, n + m + 2) else none
    | _ => none

/-- A quantifier whose counts end where `text` begins: a question mark there makes it lazy. -/
def withLaziness (min : Nat) (max : Option Nat) (braced : Bool) (used : Nat) (text : List Char) :
    Token × Nat :=
  match text with
  | '?' :: _ => (quantifier ⟨min, max, false⟩ braced, used + 1)
  | _ => (quantifier ⟨min, max, true⟩ braced, used)

/-- The token that starts with an opening brace. -/
def readBraces (g : Grammar) (text : List Char) : Token × Nat :=
  match readCounts? text with
  | some (min, max, n) => withLaziness min max true n (text.drop n)
  | none => (if g.unicode then looseBrace else literal '{'.toNat, 0)

/-! ## All tokens -/

/-- The token that starts with the character `c`, and how many characters of `text` belong to
it. -/
def readAt (g : Grammar) (c : Char) (text : List Char) : Token × Nat :=
  match c with
  | '\\' =>
    match text with
    | [] => (fault .incompleteEscape, 0)
    | next :: rest => readEscape g next rest
  | '[' => readClass g text
  | '(' => readOpening text
  | ')' => (closing, 0)
  | '|' => (bar, 0)
  | '.' => (dot, 0)
  | '^' => (lineStart, 0)
  | '$' => (lineEnd, 0)
  | '*' => withLaziness 0 none false 0 text
  | '+' => withLaziness 1 none false 0 text
  | '?' => withLaziness 0 (some 1) false 0 text
  | '{' => readBraces g text
  | '}' | ']' => (if g.unicode then fault .invalidAtom else literal c.toNat, 0)
  | _ => (literal c.toNat, 0)

/-- The tokens of a text after `skip` characters that belong to a token already read. -/
def ofSourceFrom (g : Grammar) : List Char → Nat → List Token
  | [], _ => []
  | _ :: rest, skip + 1 => ofSourceFrom g rest skip
  | c :: rest, 0 =>
    let (token, extra) := readAt g c rest
    token :: ofSourceFrom g rest extra

/-- The tokens of a pattern source, from left to right. -/
def ofSource (g : Grammar) (source : List Char) : List Token := ofSourceFrom g source 0

end Token

end RegexComposition

import RegexComposition.Pattern.Numeral
import RegexComposition.Unicode.Properties

/-!
# Group names

A named group is opened by `(?<name>`.  The name is an identifier; its characters may be
spelled by `\u` escapes.

Main definitions:

- `GroupName.read?`: the name that a text starts with, up to and including `>`.
- `GroupName.declared`: the capturing groups of a pattern source in order of their opening
  parentheses, each with its name if it has one.
-/

namespace RegexComposition.GroupName

/-- Whether a group name may start with the code point: like an identifier, or with a dollar sign
or a low line. -/
def mayStart (c : Nat) : Bool :=
  c == '$'.toNat || c == '_'.toNat || Unicode.isIdentifierStart c

/-- Whether a group name may go on with the code point: like an identifier, to which low lines and
the invisible joiners belong, or with a dollar sign. -/
def mayContinue (c : Nat) : Bool := c == '$'.toNat || Unicode.isIdentifierContinue c

/-- Whether the code point may stand at the begin or, otherwise, further on in a name. -/
def mayStand (atStart : Bool) (c : Nat) : Bool :=
  if atStart then mayStart c else mayContinue c

/-- Reads the rest of a name after `skip` characters that belong to an escape already read.
Gives the characters of the name and how many characters spell it, with the final `>`. -/
def readFrom (atStart : Bool) : List Char → Nat → Option (List Char × Nat)
  | [], _ => none
  | _ :: rest, skip + 1 => (readFrom atStart rest skip).map fun (name, n) => (name, n + 1)
  | c :: rest, 0 =>
    if c = '>' then
      if atStart then none else some ([], 1)
    else
      let spelled? :=
        if c = '\\' then
          if rest.head? = some 'u' then
            (Numeral.unicodeNumeral? true rest.tail).map fun (code, n) => (code, n + 1)
          else none
        else some (c.toNat, 0)
      match spelled? with
      | none => none
      | some (code, extra) =>
        if mayStand atStart code then
          (readFrom false rest extra).map fun (name, n) => (Char.ofNat code :: name, n + 1)
        else none

/-- The group name that a text starts with, and how many characters it takes up with the `>`
after it. -/
def read? (text : List Char) : Option (String × Nat) :=
  (readFrom true text 0).map fun (name, n) => (String.ofList name, n)

/-- The capturing groups opened in a pattern source, each with its name.  Escaped characters and
the contents of character classes open no group.  The first argument says whether the text
starts inside a class, the last how many characters are passed over first. -/
def declaredFrom (inClass : Bool) : List Char → Nat → List (Option String)
  | [], _ => []
  | _ :: rest, skip + 1 => declaredFrom inClass rest skip
  | c :: rest, 0 =>
    if c = '\\' then declaredFrom inClass rest 1
    else if inClass then declaredFrom (c != ']') rest 0
    else if c = '[' then declaredFrom true rest 0
    else if c = '(' then
      match rest with
      | '?' :: '<' :: inside =>
        match read? inside with
        | some (name, n) => some name :: declaredFrom false rest (n + 2)
        | none => declaredFrom false rest 0
      | '?' :: _ => declaredFrom false rest 0
      | _ => none :: declaredFrom false rest 0
    else declaredFrom false rest 0

/-- The capturing groups of a pattern source in order of their opening parentheses. -/
def declared (source : List Char) : List (Option String) := declaredFrom false source 0

end RegexComposition.GroupName

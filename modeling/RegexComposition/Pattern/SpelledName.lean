/-!
# Spelled group names

The capturing groups of a pattern source, found without reading the pattern: a scan that
knows of escapes, character classes and the characters after an opening parenthesis.  A name
is reported as the source spells it.

Main definitions:

- `SpelledName.ofSource`: the groups in order of their opening parentheses, with their names.
-/

namespace RegexComposition.SpelledName

/-- Whether the text after an opening parenthesis starts the name of a group: a question mark
and a less-than sign that do not belong to a lookbehind. -/
def startsName : List Char → Bool
  | '?' :: '<' :: next => !(next.head? == some '=' || next.head? == some '!')
  | _ => false

/-- The groups opened in a text.  The first argument says whether the text starts inside a
character class, the last how many characters are passed over first. -/
def ofSourceFrom (inClass : Bool) : List Char → Nat → List (Option String)
  | [], _ => []
  | _ :: rest, skip + 1 => ofSourceFrom inClass rest skip
  | c :: rest, 0 =>
    if c = '\\' then ofSourceFrom inClass rest 1
    else if inClass then ofSourceFrom (c != ']') rest 0
    else if c = '[' then ofSourceFrom true rest 0
    else if c = '(' then
      if rest.head? ≠ some '?' then none :: ofSourceFrom false rest 0
      else if startsName rest then
        let name := (rest.drop 2).takeWhile (· != '>')
        some (String.ofList name) :: ofSourceFrom false rest (name.length + 3)
      else ofSourceFrom false rest 0
    else ofSourceFrom false rest 0

/-- The capturing groups of a pattern source, each with the spelling of its name. -/
def ofSource (source : String) : List (Option String) := ofSourceFrom false source.toList 0

end RegexComposition.SpelledName

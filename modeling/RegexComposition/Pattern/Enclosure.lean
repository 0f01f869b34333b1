/-!
# Enclosing groups

A pattern source that is one group from its first to its last character can be stripped of
that pair of parentheses.  What remains of a special group starts with a question mark and must
not follow another opening parenthesis directly.

Main definitions:

- `Enclosure.closingIndex?`: where the group at the start of a source ends.
- `Enclosure.strip`: removes one enclosing pair of parentheses.
- `Enclosure.startsWithGroupMark`: whether a source is what remains of a special group.
-/

namespace RegexComposition.Enclosure

/-- Whether the text starts like the inside of a plain group, a lookaround or a named group. -/
def startsWithGroupMark : List Char → Bool
  | '?' :: c :: _ => c == ':' || c == '!' || c == '=' || c == '<'
  | _ => false

/-- How far into the text the parenthesis lies that closes the outermost of `level` open groups.
Escaped characters and the contents of character classes are passed over. -/
def closingFrom (level : Nat) (escaped inClass : Bool) : List Char → Option Nat
  | [] => none
  | c :: rest =>
    let next := fun level escaped inClass => (closingFrom level escaped inClass rest).map (· + 1)
    if escaped then next level false inClass
    else if c = '\\' then next level true inClass
    else if c = '[' ∧ !inClass then next level false true
    else if c = ']' ∧ inClass then next level false false
    else if c = '(' ∧ !inClass then next (level + 1) false false
    else if c = ')' ∧ !inClass then
      if level ≤ 1 then some 0 else next (level - 1) false false
    else next level false inClass

/-- The index of the parenthesis that closes the group at the start of a source. -/
def closingIndex? (source : List Char) : Option Nat :=
  if source.head? = some '(' then closingFrom 0 false false source else none

/-- Removes one pair of parentheses if it encloses the whole source. -/
def stripChars (source : List Char) : List Char :=
  if closingIndex? source = some (source.length - 1) then source.tail.dropLast else source

/-- Removes one pair of parentheses if it encloses the whole source. -/
def strip (source : String) : String := String.ofList (stripChars source.toList)

end RegexComposition.Enclosure

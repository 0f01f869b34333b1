/-!
# Pattern errors

Why a text is not the source of a pattern.

Main definitions:

- `PatternError`: the causes.
- `PatternError.message`: their wording.
-/

namespace RegexComposition

/-- The first problem found in a pattern source. -/
inductive PatternError where
  | duplicateGroupName
  | unbalancedParenthesis
  | unbalancedBracket
  | incompleteEscape
  | unterminatedEscape
  | invalidAtom
  | unexpectedBraces
  | invalidQuantifier
  | quantifierNotAllowed
  | invalidGroupName
  | invalidGroupModifier
  | rangeReversed
  | invalidRange
  | invalidEscape
  | invalidUnicodeEscape
  | invalidPropertyStart
  | invalidPropertyName
  | unknownGroupName (name : String)
  | incompleteNamedReference
  deriving Repr, DecidableEq

/-- The wording of a pattern error. -/
def PatternError.message : PatternError → String
  | duplicateGroupName => "Duplicate capture group name"
  | unbalancedParenthesis => "Unbalanced parenthesis"
  | unbalancedBracket => "Unbalanced bracket"
  | incompleteEscape => "Incomplete escape"
  | unterminatedEscape => "Unterminated escape"
  | invalidAtom => "Invalid atom character"
  | unexpectedBraces => "Invalid braced quantifier"
  | invalidQuantifier => "Invalid quantifier"
  | quantifierNotAllowed => "Quantifier not allowed here"
  | invalidGroupName => "Invalid token at named capture group identifier"
  | invalidGroupModifier => "Invalid group modifier"
  | rangeReversed => "Range values reversed, start char code is greater than end char code."
  | invalidRange => "Invalid character range"
  | invalidEscape => "Invalid character escape"
  | invalidUnicodeEscape => "Invalid unicode escape"
  | invalidPropertyStart => "Invalid character at property escape start"
  | invalidPropertyName => "Invalid property name"
  | unknownGroupName name => "Backreference to invalid named capture group: " ++ name
  | incompleteNamedReference => "Unexpected end of named backreference"

end RegexComposition

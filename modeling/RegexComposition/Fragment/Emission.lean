import RegexComposition.Error
import RegexComposition.Fragment.Modifiers
import RegexComposition.Pattern.Enclosure

/-!
# Emissions

While a fragment is compiled its source may contain marks for the end of the whole expression.
Whether such a mark becomes the end anchor is known only when everything has been put
together.

Main definitions:

- `Symbol` and `Emission`: source characters and pending marks.
- `Emission.sequence`, `Emission.alternation`, `Emission.upTo`, `Modifiers.apply`: how the parts
  of a fragment are put together.
- `Emission.resolve`: the source without marks.
-/

namespace RegexComposition

/-- A piece of an emission: a character of the source or a mark for the end of the whole
expression. -/
inductive Symbol where
  | char (c : Char)
  | endMark
  deriving Repr, DecidableEq

/-- Source characters with pending marks. -/
abbrev Emission := List Symbol

namespace Emission

/-- The emission of a text. -/
def ofChars (text : List Char) : Emission := text.map Symbol.char

/-- The emission of a text. -/
def ofString (text : String) : Emission := ofChars text.toList

/-- The character of a piece, unless it is a mark. -/
def char? : Symbol → Option Char
  | .char c => some c
  | .endMark => none

/-- The characters alone; marks count as nothing. -/
def chars (e : Emission) : List Char := e.filterMap char?

@[simp]
theorem chars_ofChars (text : List Char) : chars (ofChars text) = text := by
  induction text with
  | nil => rfl
  | cons c text ih => simp_all [chars, ofChars, char?]

@[simp]
theorem chars_append (a b : Emission) : chars (a ++ b) = chars a ++ chars b := by
  simp [chars]

/-- Puts a text in front and behind. -/
def wrap (before : String) (e : Emission) (after : String) : Emission :=
  ofString before ++ e ++ ofString after

@[simp]
theorem chars_wrap (before : String) (e : Emission) (after : String) :
    chars (wrap before e after) = before.toList ++ chars e ++ after.toList := by
  simp [wrap, ofString]

/-! ## Putting parts together -/

/-- Encloses a part in a group unless it starts with a parenthesis. -/
def enclose (e : Emission) : Emission :=
  if (chars e).head? = some '(' then e else wrap "(" e ")"

/-- The parts of a composite one after the other, each enclosed. -/
def sequence (parts : List Emission) : Emission := parts.flatMap enclose

/-- The shortest text up to `ahead` and `ending`, matched or looked behind at.  What remains of a
special group gets its parentheses back. -/
def upTo (direction : UntilDirection) (ahead ending : Emission) : Emission :=
  let ahead := if Enclosure.startsWithGroupMark (chars ahead) then wrap "(" ahead ")" else ahead
  match direction with
  | .ahead => wrap ".*?(?=" (ahead ++ ending) ")"
  | .behind => wrap "(?<=.*?(?=" (ahead ++ ending) "))"

/-- A fragment with its alternatives, all of them groups of one group. -/
def alternation (own : Emission) (branches : List Emission) : Emission :=
  match branches with
  | [] => own
  | _ => wrap "((" own ")" ++ branches.flatMap (wrap "|(" · ")") ++ ofString ")"

/-! ## Resolving the marks -/

/-- Whether the piece is a closing parenthesis. -/
def isClosing (s : Symbol) : Bool := s == .char ')'

/-- The source.  The last mark becomes the end anchor if nothing but closing parentheses follow
it; all other marks vanish. -/
def resolve (e : Emission) : List Char :=
  let backwards := e.reverse
  let closings := backwards.takeWhile isClosing
  match backwards.dropWhile isClosing with
  | .endMark :: rest => chars rest.reverse ++ '$' :: closings.map fun _ => ')'
  | _ => chars e

end Emission

/-- Applies the modifiers of a fragment, from the inside out: one or more, zero or more, the
quantifier, negation, optional.  Zero or more together with optional is one lazy star. -/
def Modifiers.apply (m : Modifiers) (e : Emission) : Emission :=
  let e := if m.oneOrMore then Emission.wrap "(" e ")+" else e
  let e := if m.zeroOrMore then Emission.wrap "(" e (if m.optional then ")*?" else ")*") else e
  let e :=
    match m.quantifier with
    | some quantifier => Emission.wrap "(" e (")" ++ quantifier)
    | Option.none => e
  let e := if m.negated then Emission.wrap "[^" e "]" else e
  if m.optional && !m.zeroOrMore then Emission.wrap "(" e ")?" else e

@[simp]
theorem Modifiers.apply_none (e : Emission) : Modifiers.none.apply e = e := by
  simp [Modifiers.apply, Modifiers.none]

end RegexComposition

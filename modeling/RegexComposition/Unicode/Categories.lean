import RegexComposition.Unicode.Properties
import RegexComposition.Unicode.Punctuation
import RegexComposition.Unicode.Symbols

/-!
# General categories

Every code point of Unicode 17.0 belongs to exactly one general category.  Some unions of
categories have names, too.

Main definitions:

- `GeneralCategory`: the categories.
- `GeneralCategory.contains`: whether a code point belongs to one.
- `categoryNames`: the names of the categories and of their unions.
-/

namespace RegexComposition.Unicode

/-! ## Separators and other code points -/

/-- The spaces, general category Zs. -/
def spaceSeparators : RangeTable where
  ranges := [
    (0x0020, 0x0020), (0x00A0, 0x00A0), (0x1680, 0x1680), (0x2000, 0x200A), (0x202F, 0x202F),
    (0x205F, 0x205F), (0x3000, 0x3000)]

/-- The line separator, general category Zl. -/
def lineSeparators : RangeTable := ⟨[(0x2028, 0x2028)]⟩

/-- The paragraph separator, general category Zp. -/
def paragraphSeparators : RangeTable := ⟨[(0x2029, 0x2029)]⟩

/-- The control characters, general category Cc. -/
def controls : RangeTable := ⟨[(0x0000, 0x001F), (0x007F, 0x009F)]⟩

/-- The invisible code points that are not controls, general category Cf. -/
def formats : RangeTable where
  ranges := [
    (0x00AD, 0x00AD), (0x0600, 0x0605), (0x061C, 0x061C), (0x06DD, 0x06DD), (0x070F, 0x070F),
    (0x0890, 0x0891), (0x08E2, 0x08E2), (0x180E, 0x180E), (0x200B, 0x200F), (0x202A, 0x202E),
    (0x2060, 0x2064), (0x2066, 0x206F), (0xFEFF, 0xFEFF), (0xFFF9, 0xFFFB), (0x110BD, 0x110BD),
    (0x110CD, 0x110CD), (0x13430, 0x1343F), (0x1BCA0, 0x1BCA3), (0x1D173, 0x1D17A),
    (0xE0001, 0xE0001), (0xE0020, 0xE007F)]

/-- The surrogates, general category Cs. -/
def surrogates : RangeTable := ⟨[(0xD800, 0xDFFF)]⟩

/-- The code points for private use, general category Co. -/
def privateCodePoints : RangeTable := ⟨[(0xE000, 0xF8FF), (0xF0000, 0xFFFFD), (0x100000, 0x10FFFD)]⟩

/-! ## Categories -/

/-- The general categories. -/
inductive GeneralCategory where
  | uppercaseLetter
  | lowercaseLetter
  | titlecaseLetter
  | modifierLetter
  | otherLetter
  | nonspacingMark
  | spacingMark
  | enclosingMark
  | decimalNumber
  | letterNumber
  | otherNumber
  | connectorPunctuation
  | dashPunctuation
  | openPunctuation
  | closePunctuation
  | initialPunctuation
  | finalPunctuation
  | otherPunctuation
  | mathSymbol
  | currencySymbol
  | modifierSymbol
  | otherSymbol
  | spaceSeparator
  | lineSeparator
  | paragraphSeparator
  | control
  | format
  | surrogate
  | privateUse
  | unassigned
  deriving Repr, DecidableEq

/-- The tables of the letters that are cased or modify other ones. -/
def letterTables : List RangeTable :=
  [uppercaseLetters, lowercaseLetters, titlecaseLetters, modifierLetters]

/-- The tables of all code points that are assigned, apart from the connecting punctuation. -/
def assignedTables : List RangeTable :=
  [letters, marks, enclosingMarks, decimalDigits, letterNumbers, otherNumbers, dashes,
    openBrackets, closeBrackets, initialQuotes, finalQuotes, punctuationMarks, mathSymbols,
    currencySymbols, modifierSymbols, otherSymbols, spaceSeparators, lineSeparators,
    paragraphSeparators, controls, formats, surrogates, privateCodePoints]

namespace GeneralCategory

/-- Whether the code point belongs to the category. -/
def contains : GeneralCategory → Nat → Bool
  | uppercaseLetter, c => uppercaseLetters.contains c
  | lowercaseLetter, c => lowercaseLetters.contains c
  | titlecaseLetter, c => titlecaseLetters.contains c
  | modifierLetter, c => modifierLetters.contains c
  | otherLetter, c => letters.contains c && !(letterTables.any (·.contains c))
  | nonspacingMark, c => nonspacingMarks.contains c
  | spacingMark, c => marks.contains c && !nonspacingMarks.contains c
  | enclosingMark, c => enclosingMarks.contains c
  | decimalNumber, c => decimalDigits.contains c
  | letterNumber, c => letterNumbers.contains c
  | otherNumber, c => otherNumbers.contains c
  | connectorPunctuation, c => isConnector c
  | dashPunctuation, c => dashes.contains c
  | openPunctuation, c => openBrackets.contains c
  | closePunctuation, c => closeBrackets.contains c
  | initialPunctuation, c => initialQuotes.contains c
  | finalPunctuation, c => finalQuotes.contains c
  | otherPunctuation, c => punctuationMarks.contains c
  | mathSymbol, c => mathSymbols.contains c
  | currencySymbol, c => currencySymbols.contains c
  | modifierSymbol, c => modifierSymbols.contains c
  | otherSymbol, c => otherSymbols.contains c
  | spaceSeparator, c => spaceSeparators.contains c
  | lineSeparator, c => lineSeparators.contains c
  | paragraphSeparator, c => paragraphSeparators.contains c
  | control, c => controls.contains c
  | format, c => formats.contains c
  | surrogate, c => surrogates.contains c
  | privateUse, c => privateCodePoints.contains c
  | unassigned, c => !(isConnector c || assignedTables.any (·.contains c))

end GeneralCategory

/-! ## Names -/

open GeneralCategory

/-- The categories and their unions with their names, short and long. -/
def categoryNames : List (List String × List GeneralCategory) := [
  (["L", "Letter"],
    [uppercaseLetter, lowercaseLetter, titlecaseLetter, modifierLetter, otherLetter]),
  (["LC", "Cased_Letter"], [uppercaseLetter, lowercaseLetter, titlecaseLetter]),
  (["Lu", "Uppercase_Letter"], [uppercaseLetter]),
  (["Ll", "Lowercase_Letter"], [lowercaseLetter]),
  (["Lt", "Titlecase_Letter"], [titlecaseLetter]),
  (["Lm", "Modifier_Letter"], [modifierLetter]),
  (["Lo", "Other_Letter"], [otherLetter]),
  (["M", "Mark", "Combining_Mark"], [nonspacingMark, spacingMark, enclosingMark]),
  (["Mn", "Nonspacing_Mark"], [nonspacingMark]),
  (["Mc", "Spacing_Mark"], [spacingMark]),
  (["Me", "Enclosing_Mark"], [enclosingMark]),
  (["N", "Number"], [decimalNumber, letterNumber, otherNumber]),
  (["Nd", "Decimal_Number", "digit"], [decimalNumber]),
  (["Nl", "Letter_Number"], [letterNumber]),
  (["No", "Other_Number"], [otherNumber]),
  (["P", "Punctuation", "punct"],
    [connectorPunctuation, dashPunctuation, openPunctuation, closePunctuation,
      initialPunctuation, finalPunctuation, otherPunctuation]),
  (["Pc", "Connector_Punctuation"], [connectorPunctuation]),
  (["Pd", "Dash_Punctuation"], [dashPunctuation]),
  (["Ps", "Open_Punctuation"], [openPunctuation]),
  (["Pe", "Close_Punctuation"], [closePunctuation]),
  (["Pi", "Initial_Punctuation"], [initialPunctuation]),
  (["Pf", "Final_Punctuation"], [finalPunctuation]),
  (["Po", "Other_Punctuation"], [otherPunctuation]),
  (["S", "Symbol"], [mathSymbol, currencySymbol, modifierSymbol, otherSymbol]),
  (["Sm", "Math_Symbol"], [mathSymbol]),
  (["Sc", "Currency_Symbol"], [currencySymbol]),
  (["Sk", "Modifier_Symbol"], [modifierSymbol]),
  (["So", "Other_Symbol"], [otherSymbol]),
  (["Z", "Separator"], [spaceSeparator, lineSeparator, paragraphSeparator]),
  (["Zs", "Space_Separator"], [spaceSeparator]),
  (["Zl", "Line_Separator"], [lineSeparator]),
  (["Zp", "Paragraph_Separator"], [paragraphSeparator]),
  (["C", "Other"], [control, format, surrogate, privateUse, unassigned]),
  (["Cc", "Control", "cntrl"], [control]),
  (["Cf", "Format"], [format]),
  (["Cs", "Surrogate"], [surrogate]),
  (["Co", "Private_Use"], [privateUse]),
  (["Cn", "Unassigned"], [unassigned])]

end RegexComposition.Unicode

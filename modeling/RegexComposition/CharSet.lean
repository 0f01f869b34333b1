import RegexComposition.Unicode.CaseFolding
import RegexComposition.Unicode.Categories
import RegexComposition.Unicode.Scripts
import RegexComposition.Unicode.UpperCase

/-!
# Sets of characters

The meaning of a literal character, a dot, a character class or a class escape: a set of
characters.  Code points are natural numbers, because an escape in a pattern can name half
of a surrogate pair, which is no character.

Main definitions:

- `CaseMode`: how characters are compared; `CaseMode.equivalents` lists the code points that
  count as the same.
- `ClassItem`: a range of code points, or a category such as the digits.
- `CharSet`: a list of items, possibly complemented, and `CharSet.contains`.
-/

namespace RegexComposition

/-! ## Comparing characters -/

/-- How two characters are compared. -/
inductive CaseMode where
  /-- A character equals itself only. -/
  | exact
  /-- Characters are equal when their upper case forms are. -/
  | upperCase
  /-- Characters are equal when their folded forms are. -/
  | folded
  deriving Repr, DecidableEq

namespace CaseMode

/-- The representative of the code points that count as equal to `c`. -/
def canonical : CaseMode → Nat → Nat
  | exact, c => c
  | upperCase, c => Unicode.upperCase.apply c
  | folded, c => Unicode.simpleFolding.apply c

/-- The code points that count as equal to `c`. -/
def equivalents : CaseMode → Nat → List Nat
  | exact, c => [c]
  | upperCase, c => Unicode.upperCase.equivalents c
  | folded, c => Unicode.simpleFolding.equivalents c

end CaseMode

/-! ## Categories -/

/-- A property of code points that a pattern can name. -/
inductive UnicodeProperty where
  | anything
  | assigned
  | ascii
  | alphabetic
  | identifierStart
  | identifierContinue
  | whiteSpace
  | category (categories : List Unicode.GeneralCategory)
  | script (code : String)
  | scriptExtensions (code : String)
  deriving Repr, DecidableEq

namespace UnicodeProperty

/-- Whether the code point has the property. -/
def holds : UnicodeProperty → Nat → Bool
  | anything, _ => true
  | assigned, c => !Unicode.GeneralCategory.unassigned.contains c
  | ascii, c => c < 128
  | alphabetic, c => Unicode.isAlphabetic c
  | identifierStart, c => Unicode.isIdentifierStart c
  | identifierContinue, c => Unicode.isIdentifierContinue c
  | whiteSpace, c => Unicode.isWhiteSpace c
  | category categories, c => categories.any (·.contains c)
  | script code, c => Unicode.scriptOf c == code
  | scriptExtensions code, c => (Unicode.scriptsOf c).contains code

/-- The general category, or the union of some, with the given short or long name. -/
def ofCategoryName? (name : String) : Option UnicodeProperty :=
  (Unicode.categoryNames.find? (·.1.contains name)).map (category ·.2)

/-- The property of a script with the given short or long name. -/
def ofScriptName? (property : String → UnicodeProperty) (name : String) : Option UnicodeProperty :=
  (Unicode.scriptNames.find? (·.2.contains name)).map (property ·.1)

/-- The property with the given name and, for a general category or a script, value.  Of the
properties without a value, those that are no general categories, only a few are known. -/
def ofName? : String → Option String → Option UnicodeProperty
  | "Any", none => some anything
  | "Assigned", none => some assigned
  | "ASCII", none => some ascii
  | "Alphabetic", none | "Alpha", none => some alphabetic
  | "ID_Start", none | "IDS", none => some identifierStart
  | "ID_Continue", none | "IDC", none => some identifierContinue
  | "White_Space", none | "space", none => some whiteSpace
  | name, none => ofCategoryName? name
  | "General_Category", some name | "gc", some name => ofCategoryName? name
  | "Script", some name | "sc", some name => ofScriptName? script name
  | "Script_Extensions", some name | "scx", some name => ofScriptName? scriptExtensions name
  | _, _ => none

end UnicodeProperty

/-- The categories of characters that have an escape of their own. -/
inductive CharCategory where
  | digit
  | space
  | word
  | property (p : UnicodeProperty)
  deriving Repr, DecidableEq

/-- The line feed, the carriage return and the line and paragraph separators. -/
def lineTerminators : List Nat := [0x0A, 0x0D, 0x2028, 0x2029]

/-- An ASCII letter, a decimal digit or the low line. -/
def isWordCodePoint (c : Nat) : Bool :=
  (0x61 ≤ c && c ≤ 0x7A) || (0x41 ≤ c && c ≤ 0x5A) || (0x30 ≤ c && c ≤ 0x39) || c == 0x5F

/-- White space in a pattern: the blanks of every width, the line terminators, the tabs, the
form feed and the byte order mark. -/
def isBlankCodePoint (c : Nat) : Bool :=
  (Unicode.isWhiteSpace c && c != 0x85) || c == 0xFEFF

/-- Whether the code point counts as a word character: some code point equal to it is one. -/
def CaseMode.isWord (mode : CaseMode) (c : Nat) : Bool :=
  (mode.equivalents c).any isWordCodePoint

/-- Whether the code point belongs to the category. -/
def CharCategory.holds (mode : CaseMode) : CharCategory → Nat → Bool
  | digit, c => 0x30 ≤ c && c ≤ 0x39
  | space, c => isBlankCodePoint c
  | word, c => mode.isWord c
  | property p, c => p.holds c

/-! ## Sets -/

/-- A member of a character class: a range of code points, a category or its complement. -/
inductive ClassItem where
  | range (first last : Nat)
  | category (category : CharCategory) (negated : Bool)
  deriving Repr, DecidableEq

namespace ClassItem

/-- The item that names one code point. -/
def single (c : Nat) : ClassItem := range c c

/-- Whether the item names the code point itself. -/
def names (mode : CaseMode) : ClassItem → Nat → Bool
  | range first last, c => first ≤ c && c ≤ last
  | category k negated, c => negated != k.holds mode c

@[simp]
theorem names_single (mode : CaseMode) (c d : Nat) :
    (single c).names mode d = true ↔ d = c := by
  simp only [single, names, Bool.and_eq_true, decide_eq_true_eq]
  omega

end ClassItem

/-- A set of characters: those that count as equal to one that an item names, or all others. -/
structure CharSet where
  mode : CaseMode
  items : List ClassItem
  negated : Bool
  deriving Repr, DecidableEq

namespace CharSet

/-- Whether the character belongs to the set. -/
def contains (s : CharSet) (c : Char) : Bool :=
  s.negated != (s.mode.equivalents c.toNat).any fun e => s.items.any (·.names s.mode e)

/-- The characters that count as equal to one code point. -/
def single (mode : CaseMode) (c : Nat) : CharSet := ⟨mode, [.single c], false⟩

/-- Every character, or every character that does not end a line. -/
def dot (dotAll : Bool) : CharSet :=
  ⟨.exact, if dotAll then [] else lineTerminators.map .single, true⟩

/-- With exact comparison a single code point contains that character only. -/
@[simp]
theorem contains_single_exact (c : Nat) (d : Char) :
    (single .exact c).contains d = true ↔ d.toNat = c := by
  simp [single, contains, CaseMode.equivalents]

/-- The dot matches every character but the line terminators. -/
@[simp]
theorem contains_dot (d : Char) : (dot false).contains d = true ↔ d.toNat ∉ lineTerminators := by
  simp only [dot, contains, CaseMode.equivalents]
  simp
  exact ⟨fun h hd => h _ hd rfl, fun h x hx e => h (e ▸ hx)⟩

/-- The dot of the flag `s` matches every character. -/
@[simp]
theorem contains_dot_all (d : Char) : (dot true).contains d = true := by
  simp [dot, contains, CaseMode.equivalents]

end CharSet

end RegexComposition

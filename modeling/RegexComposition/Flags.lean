/-!
# Flags

The six flags of a regular expression and ordered sets of them.  A set keeps the
order in which its flags were first added, so the union of the flags of many
patterns is deterministic, and it never holds a flag twice.

Main definitions:

- `Flag`: the flags, each with its letter and the question whether the matcher
  itself looks at it.
- `Flags`: an ordered set of flags; `Flags.insert`, `Flags.union` and
  `Flags.withGlobal` add to it.
- `Flags.parse`: reads a flag string, refusing unknown and repeated letters.
-/

namespace RegexComposition

/-! ## Single flags -/

/-- A mode of a regular expression. -/
inductive Flag where
  | caseInsensitive
  | global
  | multiline
  | dotAll
  | unicode
  | sticky
  deriving Repr, DecidableEq

namespace Flag

/-- The letter that stands for a flag in a flag string. -/
def letter : Flag → Char
  | caseInsensitive => 'i'
  | global => 'g'
  | multiline => 'm'
  | dotAll => 's'
  | unicode => 'u'
  | sticky => 'y'

/-- The word for a flag in the structural printout of a fragment. -/
def word : Flag → String
  | caseInsensitive => "CaseInsensitive"
  | global => "Global"
  | multiline => "Multiline"
  | dotAll => "DotAll"
  | unicode => "Unicode"
  | sticky => "Sticky"

/-- The flag a letter stands for, if any. -/
def ofLetter? : Char → Option Flag
  | 'i' => some caseInsensitive
  | 'g' => some global
  | 'm' => some multiline
  | 's' => some dotAll
  | 'u' => some unicode
  | 'y' => some sticky
  | _ => none

/-- Whether the flag changes how a pattern is read or matched.  The flags `g` and `y`
only change how the matches in a text are enumerated. -/
def isMatcherFlag : Flag → Bool
  | global | sticky => false
  | _ => true

@[simp]
theorem ofLetter?_letter (f : Flag) : ofLetter? f.letter = some f := by
  cases f <;> rfl

/-- A letter that stands for a flag is the letter of that flag. -/
theorem letter_of_ofLetter? {c : Char} {f : Flag} (h : ofLetter? c = some f) :
    f.letter = c := by
  unfold ofLetter? at h
  split at h <;> cases h <;> rfl

end Flag

/-! ## Reading errors -/

/-- Why a text is not a flag string; `text` is the whole of it. -/
inductive FlagsError where
  | unknown (letter : Char) (text : String)
  | duplicate (letter : Char) (text : String)
  deriving Repr, DecidableEq

/-- The wording of a flag string error. -/
def FlagsError.message : FlagsError → String
  | unknown letter text => "Unknown flag '" ++ letter.toString ++ "' in \"" ++ text ++ "\"."
  | duplicate letter text =>
    "Duplicate flag '" ++ letter.toString ++ "' in \"" ++ text ++ "\"."

/-! ## Ordered sets of flags -/

/-- An ordered set of flags, in the order of their first insertion. -/
structure Flags where
  toList : List Flag
  nodup : toList.Nodup
  deriving DecidableEq

namespace Flags

/-- The set without flags. -/
def empty : Flags := ⟨[], List.nodup_nil⟩

instance : Inhabited Flags := ⟨empty⟩

instance : EmptyCollection Flags := ⟨empty⟩

/-- Whether the flag belongs to the set. -/
def contains (flags : Flags) (f : Flag) : Bool := flags.toList.contains f

instance : Membership Flag Flags := ⟨fun flags f => f ∈ flags.toList⟩

@[simp]
theorem contains_iff {flags : Flags} {f : Flag} : flags.contains f = true ↔ f ∈ flags.toList := by
  simp [contains]

/-- Adds a flag at the end; a flag that is already present keeps its place. -/
def insert (flags : Flags) (f : Flag) : Flags :=
  if h : f ∈ flags.toList then flags
  else ⟨flags.toList ++ [f], by
    rw [List.nodup_append]
    exact ⟨flags.nodup, by simp, by
      intro a ha b hb
      rcases List.mem_singleton.1 hb with rfl
      exact fun e => h (e ▸ ha)⟩⟩

/-- Inserts flags one after the other. -/
def insertAll (flags : Flags) (fs : List Flag) : Flags := fs.foldl insert flags

/-- Inserts every flag of the second set, in its order. -/
def union (flags other : Flags) : Flags := flags.insertAll other.toList

/-- The set of the flags of a list, each at its first place. -/
def ofList (fs : List Flag) : Flags := empty.insertAll fs

/-- The set with the global flag put in front if it was missing. -/
def withGlobal (flags : Flags) : Flags :=
  if h : .global ∈ flags.toList then flags
  else ⟨.global :: flags.toList, List.nodup_cons.2 ⟨h, flags.nodup⟩⟩

/-- Adds the flag of each letter to `seen`, up to the first letter that is unknown or that
stands for a flag already present. -/
def parseFrom (text : String) (seen : Flags) : List Char → Except FlagsError Flags
  | [] => .ok seen
  | c :: rest =>
    match Flag.ofLetter? c with
    | none => .error (.unknown c text)
    | some f =>
      if seen.contains f then .error (.duplicate c text)
      else parseFrom text (seen.insert f) rest

/-- Reads a flag string such as `im`: each letter stands for a flag and occurs once. -/
def parse (text : String) : Except FlagsError Flags := parseFrom text empty text.toList

/-- The letters of the flags that the matcher looks at, in the order of the set. -/
def matcherLetters (flags : Flags) : String :=
  String.ofList ((flags.toList.filter Flag.isMatcherFlag).map Flag.letter)

/-- The letters of the flags, in the order of the set. -/
def render (flags : Flags) : String := String.ofList (flags.toList.map Flag.letter)

instance : ToString Flags := ⟨render⟩

/-! ## The flags of an operation's result -/

@[simp]
theorem toList_empty : empty.toList = [] := rfl

theorem toList_insert (flags : Flags) (f : Flag) :
    (flags.insert f).toList = if f ∈ flags.toList then flags.toList else flags.toList ++ [f] := by
  unfold insert
  split <;> simp_all

theorem toList_withGlobal (flags : Flags) :
    flags.withGlobal.toList =
      if .global ∈ flags.toList then flags.toList else .global :: flags.toList := by
  unfold withGlobal
  split <;> simp_all

@[simp]
theorem mem_insert {flags : Flags} {f g : Flag} :
    g ∈ (flags.insert f).toList ↔ g ∈ flags.toList ∨ g = f := by
  rw [toList_insert]
  split
  · constructor
    · exact Or.inl
    · rintro (h | rfl) <;> assumption
  · simp

end Flags

end RegexComposition

import RegexComposition.Builder
import RegexComposition.Capture.Cursor
import RegexComposition.Capture.GroupName

/-!
# Capturing groups

The groups of a registry are matched one after the other by a single pattern of named groups.
Every match gives a record with the text of each group and the offset in characters at which
it ends.

Main definitions:

- `CaptureOptions`: flags, anchors, and whether groups have to be adjacent.
- `CaptureRecord`: the groups of one match by name.
- `Graph.capture`: all records in a text.
-/

namespace RegexComposition

/-! ## Options -/

/-- To which ends of the text a match is anchored. -/
inductive CaptureMode where
  | anywhere
  | fromBegin
  | untilEnd
  | fromBeginUntilEnd
  deriving Repr, DecidableEq

namespace CaptureMode

/-- The anchor in front of the groups. -/
def beginAnchor : CaptureMode → String
  | fromBegin | fromBeginUntilEnd => "^"
  | anywhere | untilEnd => ""

/-- The anchor behind the groups. -/
def endAnchor : CaptureMode → String
  | untilEnd | fromBeginUntilEnd => "$"
  | anywhere | fromBegin => ""

end CaptureMode

/-- How groups are captured. -/
structure CaptureOptions where
  /-- The flags; without them those of the builder count, and then those of the groups. -/
  flags : Option Flags := none
  mode : CaptureMode := .anywhere
  /-- Whether the groups have to follow each other without a gap. -/
  strict : Bool := true

/-! ## Records -/

/-- What a group matched: the text, the offset of its end and its length in characters. -/
structure GroupMatch where
  value : String
  index : Nat
  length : Nat
  deriving Repr, DecidableEq

/-- The groups of one match, in order of registration. -/
structure CaptureRecord where
  groups : List (String × GroupMatch)
  deriving Repr, DecidableEq

namespace CaptureRecord

/-- What the group with the given name matched. -/
def get? (r : CaptureRecord) (name : String) : Option GroupMatch := r.groups.lookup name

/-- Whether the record has a group with the given name. -/
def contains (r : CaptureRecord) (name : String) : Bool := (r.get? name).isSome

/-- The names of the groups. -/
def names (r : CaptureRecord) : List String := r.groups.map (·.1)

/-- The number of groups. -/
def size (r : CaptureRecord) : Nat := r.groups.length

/-- Whether the record has no groups. -/
def isEmpty (r : CaptureRecord) : Bool := r.groups.isEmpty

/-- What the group with the given name matched, or an error without such a group. -/
def lookup (r : CaptureRecord) (name : String) : Except LookupError GroupMatch :=
  match r.get? name with
  | some m => .ok m
  | none => .error (.noSuchName name)

end CaptureRecord

/-! ## The pattern -/

/-- A group of the pattern. -/
structure CaptureEntry where
  name : String
  nativeName : String
  source : String
  skipped : Bool
  deriving Repr, DecidableEq

namespace CaptureEntry

/-- The named group of an entry. -/
def group (e : CaptureEntry) : String := "(?<" ++ e.nativeName ++ ">" ++ e.source ++ ")"

/-- The entries of registered groups, given the native names taken by earlier ones. -/
def ofGroups (g : Graph) (taken : List String) :
    List (String × FragmentId) → Except CompositionError (List CaptureEntry)
  | [] => .ok []
  | (name, id) :: rest => do
    let nativeName := nativeGroupName name
    if nativeName = "" then throw (.unusableGroupName name)
    if taken.contains nativeName then throw (.duplicateCaptureName name)
    let source ← g.source id
    let entries ← ofGroups g (nativeName :: taken) rest
    return ⟨name, nativeName, source, (g.node id).skipped⟩ :: entries

/-- What may stand between two groups that need not be adjacent: any text, as short as possible. -/
def gap : String := "(?:[\\s\\S]*?)"

/-- The pattern of all entries. -/
def pattern (options : CaptureOptions) (entries : List CaptureEntry) : String :=
  options.mode.beginAnchor ++
    String.intercalate (if options.strict then "" else gap) (entries.map group) ++
    options.mode.endAnchor

end CaptureEntry

/-! ## Reading the matches -/

namespace CaptureEntry

/-- The groups of a match that are recorded.  The running offset advances by the length of each
group or, if gaps are allowed, jumps to where the group ends. -/
def readGroups (strict : Bool) (groupOf : CaptureEntry → Option Match) :
    List CaptureEntry → (offset : Nat) → CharCursor → List (String × GroupMatch) × CharCursor
  | [], _, cursor => ([], cursor)
  | entry :: rest, offset, cursor =>
    let found := groupOf entry
    let value := (found.map (·.value)).getD ""
    let length := value.length
    let (offset, cursor) :=
      match found with
      | some m => if strict then (offset + length, cursor) else cursor.offsetOf m.stop
      | none => (offset + length, cursor)
    let (groups, cursor) := readGroups strict groupOf rest offset cursor
    (if entry.skipped then groups else (entry.name, ⟨value, offset, length⟩) :: groups, cursor)

/-- The group of a match that belongs to an entry. -/
def find? (r : Regex) (groups : MatchGroups) (e : CaptureEntry) : Option Match :=
  (r.program.groupIndex? e.nativeName).bind groups.get?

/-- The records of a list of matches, read with one cursor. -/
def readMatches (r : Regex) (strict : Bool) (entries : List CaptureEntry) :
    List MatchGroups → CharCursor → List CaptureRecord
  | [], _ => []
  | groups :: rest, cursor =>
    let (offset, cursor) := cursor.offsetOf (((groups.get? 0).map (·.start)).getD 0)
    let (record, cursor) := readGroups strict (find? r groups) entries offset cursor
    ⟨record⟩ :: readMatches r strict entries rest cursor

end CaptureEntry

namespace Graph

/-- The flags under which groups are captured: those of the options, else the default ones, else
the union of those of the groups. -/
def captureFlags (g : Graph) (options : CaptureOptions) (default : Option Flags)
    (groups : List FragmentId) : Except CompositionError Flags :=
  match options.flags.or default with
  | some flags => .ok flags.withGlobal
  | none => do
    let flags ← groups.mapM (g.resolveFlags · none none)
    return (Flags.ofList (flags.flatMap (·.toList))).withGlobal

/-- The records of all matches of the given groups in a text. -/
def capture (g : Graph) (text : String) (groups : NameTable) (options : CaptureOptions)
    (default : Option Flags) : Except CompositionError (List CaptureRecord) :=
  match groups.entries with
  | [] => .ok []
  | entries => do
    let entries ← CaptureEntry.ofGroups g [] entries
    let flags ← g.captureFlags options default groups.fragments
    let regex ← Regex.compile (CaptureEntry.pattern options entries) flags
    return CaptureEntry.readMatches regex options.strict entries (regex.capturesIn text)
      (CharCursor.start text.toList)

end Graph

namespace Builder

variable {σ : Type}

/-- The records of all matches of the given groups in a text. -/
def captureIn (b : Builder) (text : String) (groups : NameTable) (options : CaptureOptions) :
    Session σ (List CaptureRecord) := do
  Session.ofExcept ((← Session.graph).capture text groups options b.flags)

/-- The records of all matches of the registered groups in a text. -/
def capture (b : Builder) (text : String) (options : CaptureOptions) :
    Session σ (List CaptureRecord) := do
  b.captureIn text (← b.names).groups options

end Builder

end RegexComposition

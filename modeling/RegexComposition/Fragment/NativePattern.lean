import RegexComposition.Error

/-!
# Native patterns

A pattern source with flags that is handed to the matcher as it stands.

Main definitions:

- `NativePattern`, with its printed form in `NativePattern.render`.
-/

namespace RegexComposition

/-- A pattern source with flags. -/
structure NativePattern where
  source : String
  flags : Flags
  deriving DecidableEq

namespace NativePattern

instance : Inhabited NativePattern := ⟨⟨"", ∅⟩⟩

/-- A source without flags. -/
def ofSource (source : String) : NativePattern := ⟨source, ∅⟩

/-- A source with the flags of a flag string. -/
def parse (source flags : String) : Except CompositionError NativePattern :=
  match Flags.parse flags with
  | .ok flags => .ok ⟨source, flags⟩
  | .error cause => .error (.invalidFlags cause)

/-- The source between slashes, followed by the flags. -/
def render (p : NativePattern) : String := "/" ++ p.source ++ "/" ++ p.flags.render

end NativePattern

end RegexComposition

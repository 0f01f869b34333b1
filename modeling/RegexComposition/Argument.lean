import RegexComposition.Fragment.Display
import RegexComposition.Literal
import RegexComposition.Session

/-!
# Builders and arguments

A builder makes fragments in one registry of names.  What it is given are arguments: patterns,
fragments, names, literals, functions and forward references.

Main definitions:

- `Builder`: a registry and default flags.
- `Argument`: one argument of a combination, or the value of a name.
- `Argument.render`: the printed form of an argument.
-/

namespace RegexComposition

/-- A user of a registry, with the flags for the patterns it compiles. -/
structure Builder where
  registry : RegistryId
  flags : Option Flags
  deriving DecidableEq

/-- One argument of a combination, or the value of a name. -/
inductive Argument (σ : Type) where
  | native (pattern : NativePattern)
  | fragment (id : FragmentId)
  /-- A reference to an alias or group, with suffixes. -/
  | name (text : String)
  /-- A function that gives a text to be matched literally.  It is given no builder but may use
  those that it knows of. -/
  | textFunction (text : Session σ String)
  /-- A function that makes a fragment with the builder it is given. -/
  | function (make : Builder → Session σ FragmentId)
  | literal (value : Literal)
  /-- Everything up to where the remaining arguments match or, if there is one, the pattern. -/
  | upTo (direction : UntilDirection) (pattern : Option NativePattern)

namespace Argument

variable {σ : Type}

/-- A bare text is a name, any other bare literal stands for itself. -/
def ofLiteral : Literal → Argument σ
  | .text s => name s
  | l => literal l

/-- A function that only computes a text to be matched literally. -/
def delayedText (text : Unit → String) : Argument σ := textFunction (pure (text ()))

/-- Whether the argument refers to what comes after it. -/
def isForwardReference : Argument σ → Bool
  | upTo _ _ => true
  | _ => false

/-- The printed form of an argument, in the graph of its fragments. -/
def render (g : Graph) : Argument σ → String
  | native pattern => pattern.render
  | fragment id => g.inline id
  | name text => text
  | textFunction _ => "fn() -> String"
  | function _ => "fn(&RegexBuilder) -> Fragment"
  | literal value => value.render
  | upTo direction none => direction.word
  | upTo direction (some pattern) => direction.word ++ "(" ++ pattern.render ++ ")"

/-- The structure of an argument. -/
def structureText (g : Graph) (a : Argument σ) : String := "Argument(" ++ a.render g ++ ")"

end Argument

end RegexComposition

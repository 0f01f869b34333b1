import RegexComposition.Combination

/-!
# Building fragments

What a builder offers: naming fragments, combining them, turning combinations into lookarounds
and numbered groups, and compiling.

Main definitions:

- `Builder.create`, `Builder.copy`, `Builder.discard`: the life of a builder.
- `Builder.register`, `Builder.skip`: naming a fragment.
- `Builder.lookaround`, `Builder.captureGroups`: patterns made of a combination.
- `Builder.toRegex`, `Builder.compile`, `Builder.source`: compiling.
- `Session.addAlternative`: adds an alternative to a fragment.
- `Session.setFlags`, `Session.setQuantifier`, `Session.setOptional`: change a fragment.
-/

namespace RegexComposition

variable {σ : Type}

namespace Builder

/-! ## Builders -/

/-- A builder with a registry of its own. -/
def create (flags : Option Flags) : Session σ Builder := do
  let registry ← Session.onWorkspace (·.addRegistry)
  return ⟨registry, flags⟩

/-- One more user of the registry of a builder, with the same flags. -/
def copy (b : Builder) : Session σ Builder := do
  Session.modifyWorkspace (·.acquire b.registry)
  return b

/-- Gives up a builder. -/
def discard (b : Builder) : Session σ Unit := Session.modifyWorkspace (·.release b.registry)

/-- The names in the registry of a builder. -/
def names (b : Builder) : Session σ Registry := do
  return (← Session.workspace).names b.registry

/-! ## Naming -/

/-- Fails if a name cannot be registered. -/
def checkName (b : Builder) (name : String) : Session σ Unit := do
  match (← b.names).nameError? name with
  | some e => throw e
  | none => pure ()

/-- Registers a fragment under a name and adopts it.  The name is checked here again, because a
function may have taken it in the meantime. -/
def insert (b : Builder) (nameClass : NameClass) (name : String) (fragment : FragmentId) :
    Session σ Unit := do
  let names ← Session.ofExcept ((← b.names).insert? nameClass name fragment)
  Session.modifyWorkspace (·.setNames b.registry names)

/-- Registers a value under a name, which is checked before any function runs. -/
def register (b : Builder) (nameClass : NameClass) (name : String) (value : Argument σ) :
    Session σ FragmentId := do
  b.checkName name
  let id ← b.resolveValue value
  b.insert nameClass name id
  b.adopt id
  return id

/-- Registers a value as a group that is left out of the capture records, under a name of its own.
A fragment that is registered already is wrapped, so that its other name is not affected. -/
def skip (b : Builder) (value : Argument σ) : Session σ FragmentId := do
  let target ← b.resolveValue value
  let names ← b.names
  let id ←
    if names.containsFragment target then
      Session.onGraph (·.addWrapper target Modifiers.none)
    else pure target
  b.insert .group names.skipName id
  Session.modifyGraph (·.modify id ({ · with skipped := true }))
  b.adopt id
  return id

/-- A fragment that matches a literal. -/
def addLiteral (b : Builder) (value : Literal) : Session σ FragmentId := do
  let id ← Session.addLiteral value
  b.adopt id
  return id

/-! ## Patterns made of combinations -/

/-- The mark after the opening parenthesis of a lookaround. -/
def lookaroundMark (direction : Direction) (negated : Bool) : String :=
  match direction, negated with
  | .forward, false => "?="
  | .forward, true => "?!"
  | .backward, false => "?<="
  | .backward, true => "?<!"

/-- The lookaround over a combination. -/
def lookaround (b : Builder) (direction : Direction) (negated : Bool) (args : List (Argument σ)) :
    Session σ NativePattern := do
  let id ← b.combine args
  let source ← Session.ofExcept ((← Session.graph).source id)
  return NativePattern.ofSource
    ("(" ++ lookaroundMark direction negated ++ Enclosure.strip source ++ ")")

/-- The group for the argument at the given position, counted from 1: a named one, or a plain one
for what remains of a special group and for forward references. -/
def numberedGroup (position : Nat) (source : String) : String :=
  let inside := Enclosure.strip source
  if Enclosure.startsWithGroupMark inside.toList || ['.', '*', '?'].isPrefixOf inside.toList then
    "(" ++ inside ++ ")"
  else "(?<group_" ++ toString position ++ ">" ++ inside ++ ")"

/-- The groups of all arguments that have a fragment, counting positions from `position`. -/
def numberedGroups (g : Graph) (position : Nat) :
    List (Option FragmentId) → Except CompositionError String
  | [] => .ok ""
  | none :: rest => numberedGroups g (position + 1) rest
  | some id :: rest => do
    let source ← g.source id
    return numberedGroup position source ++ (← numberedGroups g (position + 1) rest)

/-- A pattern with one group for every argument, named after the position of the argument. -/
def captureGroups (b : Builder) (args : List (Argument σ)) : Session σ NativePattern := do
  let products ← b.products args
  let source ← Session.ofExcept (numberedGroups (← Session.graph) 1 products)
  let stripped := Enclosure.strip source
  return NativePattern.ofSource <|
    if Enclosure.startsWithGroupMark stripped.toList then "(" ++ stripped ++ ")" else stripped

/-! ## Compiling -/

/-- The regular expression of a single value.  The given flags win over those of the fragment and
those of the builder. -/
def toRegex (b : Builder) (value : Argument σ) (flags : Option Flags) : Session σ Regex := do
  let id ← b.resolveValue value
  Session.ofExcept ((← Session.graph).regex id flags b.flags)

/-- The regular expression of a combination. -/
def compile (b : Builder) (args : List (Argument σ)) : Session σ Regex := do
  let id ← b.combine args
  Session.ofExcept ((← Session.graph).regex id none b.flags)

/-- The pattern source of a combination. -/
def source (b : Builder) (args : List (Argument σ)) : Session σ String := do
  let id ← b.combine args
  Session.ofExcept ((← Session.graph).source id)

end Builder

/-! ## Alternatives, settings and new fragments -/

namespace Session

/-- A builder for additions to a fragment: one that uses the registry of the fragment if that
still exists, otherwise one with an empty registry. -/
def builderFor (id : FragmentId) : Session σ Builder := do
  let w ← workspace
  match (w.graph.node id).registry.filter w.isLive with
  | some registry => Builder.copy ⟨registry, none⟩
  | none => Builder.create none

/-- Adds the combination of the arguments to a fragment as an alternative.  Without arguments
nothing is added. -/
def addAlternative (id : FragmentId) (args : List (Argument σ)) : Session σ Unit := do
  match args with
  | [] => pure ()
  | args =>
    let b ← builderFor id
    let result ← ExceptT.lift (b.combine args).run
    b.discard
    let branch ← ofExcept result
    modifyGraph (·.pushAlternative id branch)

/-- Sets the flags of a fragment, whatever its leaves have. -/
def setFlags (id : FragmentId) (flags : Flags) : Session σ Unit :=
  modifyGraph (·.modify id ({ · with flags := some flags }))

/-- Sets the quantifier of a fragment. -/
def setQuantifier (id : FragmentId) (quantifier : String) : Session σ Unit :=
  modifyGraph (·.modify id fun n =>
    { n with modifiers := { n.modifiers with quantifier := some quantifier } })

/-- Makes a fragment optional or not. -/
def setOptional (id : FragmentId) (optional : Bool) : Session σ Unit :=
  modifyGraph (·.modify id fun n =>
    { n with modifiers := { n.modifiers with optional := optional } })

/-- What a new fragment can be made of. -/
inductive Input where
  | native (pattern : NativePattern)
  | fragment (id : FragmentId)
  | literal (value : Literal)

/-- The child that an input becomes. -/
def addInput : Input → Session σ FragmentId
  | .native pattern => onGraph (·.addNative pattern)
  | .fragment id => pure id
  | .literal value => addLiteral value

/-- A new fragment that belongs to no registry: a leaf for a single pattern, otherwise a composite
of all inputs. -/
def addFragment : List Input → Session σ FragmentId
  | [.native pattern] => onGraph (·.addNative pattern)
  | inputs => do
    let children ← inputs.mapM addInput
    onGraph (·.addComposite children)

end Session

end RegexComposition

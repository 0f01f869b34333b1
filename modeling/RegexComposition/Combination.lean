import RegexComposition.Argument

/-!
# Combinations

The arguments of a combination are resolved from left to right, so that a function may register
names for the arguments after it.  They are assembled from right to left, because a forward
reference takes in everything after it.

Main definitions:

- `Builder.resolveValue`: the fragment of a single value.
- `Builder.products`: the fragment of each argument of a list.
- `Builder.combine`: the composite of all arguments.
-/

namespace RegexComposition

variable {σ : Type}

/-! ## Single values -/

namespace Session

/-- Adds a leaf with the given source and no flags. -/
def addSource (source : String) : Session σ FragmentId :=
  onGraph (·.addNative (NativePattern.ofSource source))

/-- Adds a leaf that matches a literal. -/
def addLiteral (l : Literal) : Session σ FragmentId := addSource l.source

/-- The registered fragment that a name refers to, or a wrapper around it that carries the
modifiers of its suffixes. -/
def ofResolution (r : Resolution) : Session σ FragmentId :=
  if r.modifiers.isEmpty then pure r.target else onGraph (·.addWrapper r.target r.modifiers)

end Session

namespace Builder

/-- The anchors that go by a name unless the name is registered. -/
def anchor? : String → Option String
  | "begin" => some "^"
  | "end" => some "$"
  | _ => none

/-- The fragment that a name refers to.  An unknown name refers to nothing, unless it carries a
suffix: then it is an error. -/
def resolveReference (b : Builder) (name : String) : Session σ (Option FragmentId) := do
  match ((← Session.workspace).names b.registry).resolve? name with
  | some resolution => some <$> Session.ofResolution resolution
  | none =>
    match anchor? name with
    | some source => some <$> Session.addSource source
    | none => if (Suffix.split? name.toList).isSome then throw (.notFound name) else pure none

/-- The fragment of a single value.  A name has to refer to something, and a forward reference
is not allowed. -/
def resolveValue (b : Builder) : Argument σ → Session σ FragmentId
  | .native pattern => Session.onGraph (·.addNative pattern)
  | .fragment id => pure id
  | .name text => do
    match ← b.resolveReference text with
    | some id => pure id
    | none => throw (.notFound text)
  | .textFunction text => do Session.addLiteral (.text (← text))
  | .function make => make b
  | .literal value => Session.addLiteral value
  | .upTo direction _ => throw (.misplacedUntil direction)

/-! ## Lists of arguments -/

/-- An argument after it has been resolved. -/
inductive Slot where
  | product (id : FragmentId)
  | forward (direction : UntilDirection)
  | dropped
  deriving Repr, DecidableEq

/-- Resolves one argument of a list, where an unknown name counts as nothing and a forward
reference without a pattern waits for what comes after it. -/
def classify (b : Builder) : Argument σ → Session σ Slot
  | .upTo _ (some pattern) => Slot.product <$> Session.onGraph (·.addNative pattern)
  | .upTo direction none => pure (.forward direction)
  | .name text => do
    match ← b.resolveReference text with
    | some id => pure (.product id)
    | none => pure .dropped
  | other => Slot.product <$> b.resolveValue other

/-- The fragments of resolved arguments.  A forward reference becomes a node over all later
fragments, or nothing if there is none. -/
def assemble : List Slot → Graph → List (Option FragmentId) × Graph
  | [], g => ([], g)
  | slot :: rest, g =>
    let (later, g) := assemble rest g
    match slot with
    | .product id => (some id :: later, g)
    | .dropped => (none :: later, g)
    | .forward direction =>
      match later.filterMap id with
      | [] => (none :: later, g)
      | children =>
        let (ahead, g) := g.addComposite children
        let (id, g) := g.addUpTo ahead direction
        (some id :: later, g)

/-- The fragment of each argument, in order; some arguments have none. -/
def products (b : Builder) (args : List (Argument σ)) : Session σ (List (Option FragmentId)) := do
  let slots ← args.mapM b.classify
  Session.onGraph (assemble slots)

/-- Points a fragment and everything below it at the registry of the builder. -/
def adopt (b : Builder) (id : FragmentId) : Session σ Unit :=
  Session.modifyGraph (·.adopt b.registry id)

/-- The composite of the fragments of all arguments. -/
def combine (b : Builder) (args : List (Argument σ)) : Session σ FragmentId := do
  let products ← b.products args
  let id ← Session.onGraph (·.addComposite (products.filterMap id))
  b.adopt id
  return id

end Builder

end RegexComposition

import RegexComposition.Fragment.Emission
import RegexComposition.Fragment.Graph
import RegexComposition.Regex

/-!
# Compiling fragments

A fragment is compiled into a pattern source together with the flags under which it is
matched.

Main definitions:

- `maxNesting`: how many levels deep a fragment may be nested.
- `Graph.source`: the pattern source of a fragment.
- `Graph.resolveFlags`: the flags of a fragment.
- `Graph.regex`: the regular expression of a fragment.
-/

namespace RegexComposition

/-- The deepest level of descendants that a fragment may have.  A fragment that contains itself
exceeds it. -/
def maxNesting : Nat := 512

namespace Graph

/-! ## Source -/

/-- The emission of a node, whose descendants may take up `levels` levels, its own included. -/
def emit (g : Graph) : (levels : Nat) → FragmentId → Except CompositionError Emission
  | 0, _ => .error (.nestingTooDeep maxNesting)
  | levels + 1, id => do
    let n := g.node id
    let own ←
      match n.kind with
      | .native pattern => pure (Emission.ofString pattern.source)
      | .composite children => Emission.sequence <$> children.mapM (g.emit levels)
      | .upTo ahead ending direction =>
        Emission.upTo direction <$> g.emit levels ahead <*> g.emit levels ending
      | .expressionEnd => pure [.endMark]
    let branches ← n.alternatives.mapM (g.emit levels)
    return n.modifiers.apply (Emission.alternation own branches)

/-- The pattern source of a fragment. -/
def source (g : Graph) (id : FragmentId) : Except CompositionError String :=
  (fun e => String.ofList (Emission.resolve e)) <$> g.emit (maxNesting + 1) id

/-! ## Flags -/

/-- The flags of the leaves below a node, in the order of the source, whose descendants may take
up `levels` levels. -/
def leafFlags (g : Graph) : (levels : Nat) → FragmentId → Except CompositionError (List Flag)
  | 0, _ => .error (.nestingTooDeep maxNesting)
  | levels + 1, id => do
    let n := g.node id
    let own ←
      match n.kind with
      | .native pattern => pure pattern.flags.toList
      | .composite children => List.flatten <$> children.mapM (g.leafFlags levels)
      | .upTo ahead _ _ => g.leafFlags levels ahead
      | .expressionEnd => pure []
    let branches ← n.alternatives.mapM (g.leafFlags levels)
    return own ++ branches.flatten

/-- The flags under which a fragment is matched: the given ones, else those set on the fragment,
else the default ones, else those of its leaves.  The global flag always belongs to them. -/
def resolveFlags (g : Graph) (id : FragmentId) (given default : Option Flags) :
    Except CompositionError Flags :=
  match (given.or (g.node id).flags).or default with
  | some flags => .ok flags.withGlobal
  | none => (fun fs => (Flags.ofList fs).withGlobal) <$> g.leafFlags (maxNesting + 1) id

/-! ## Regular expressions -/

/-- The regular expression of a fragment. -/
def regex (g : Graph) (id : FragmentId) (given default : Option Flags) :
    Except CompositionError Regex := do
  let source ← g.source id
  let flags ← g.resolveFlags id given default
  Regex.compile source flags

end Graph

end RegexComposition

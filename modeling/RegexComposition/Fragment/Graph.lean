import RegexComposition.Fragment.Modifiers
import RegexComposition.Fragment.NativePattern

/-!
# Fragment graphs

Fragments are nodes of a graph.  A node is shared by every fragment that it was put into, so
that a change to it shows everywhere; two fragments are the same if they have the same
identity.  A node mentions older nodes in its kind, while an alternative may be any node, the
node itself included.

Main definitions:

- `FragmentId`, `FragmentKind`, `Node`: the identity, the kind and all settings of a node.
- `Graph`: all nodes; `Graph.node`, `Graph.add` and `Graph.modify`.
- `Graph.reachable`: the nodes that can be reached from one of them.
- `Graph.adopt`: points all of these at a registry.
-/

namespace RegexComposition

/-! ## Nodes -/

/-- The identity of a node. -/
structure FragmentId where
  index : Nat
  deriving Repr, DecidableEq, Inhabited

/-- The identity of a registry of names. -/
structure RegistryId where
  index : Nat
  deriving Repr, DecidableEq, Inhabited

/-- What a node stands for, apart from its alternatives and modifiers. -/
inductive FragmentKind where
  /-- A pattern as it stands. -/
  | native (pattern : NativePattern)
  /-- The children one after the other. -/
  | composite (children : List FragmentId)
  /-- The shortest text up to where `ahead` matches and then `ending`. -/
  | upTo (ahead ending : FragmentId) (direction : UntilDirection)
  /-- The end of the whole expression. -/
  | expressionEnd
  deriving DecidableEq

instance : Inhabited FragmentKind := ⟨.expressionEnd⟩

/-- A node of a fragment graph. -/
structure Node where
  kind : FragmentKind
  alternatives : List FragmentId := []
  modifiers : Modifiers := {}
  /-- The flags set on the fragment; without them its leaves decide. -/
  flags : Option Flags := none
  /-- Whether a group with this fragment is left out of the capture records. -/
  skipped : Bool := false
  /-- The registry in which alternatives added later look up names. -/
  registry : Option RegistryId := none
  /-- The node that the fragment was last put into. -/
  parent : Option FragmentId := none
  deriving DecidableEq, Inhabited

namespace FragmentKind

/-- The nodes that a kind mentions. -/
def parts : FragmentKind → List FragmentId
  | native _ | expressionEnd => []
  | composite children => children
  | upTo ahead ending _ => [ahead, ending]

end FragmentKind

namespace Node

/-- The nodes that a node leads to. -/
def links (n : Node) : List FragmentId := n.alternatives ++ n.kind.parts

/-- The children of a composite; other nodes have none. -/
def children (n : Node) : List FragmentId :=
  match n.kind with
  | .composite children => children
  | _ => []

/-- The pattern of a leaf. -/
def nativePattern? (n : Node) : Option NativePattern :=
  match n.kind with
  | .native pattern => some pattern
  | _ => none

end Node

/-! ## Graphs -/

/-- The nodes made so far, the oldest first. -/
structure Graph where
  nodes : Array Node

namespace Graph

/-- The graph without nodes. -/
def empty : Graph := ⟨#[]⟩

/-- The number of nodes. -/
def size (g : Graph) : Nat := g.nodes.size

/-- The node with the given identity. -/
def node (g : Graph) (id : FragmentId) : Node := g.nodes.getD id.index default

/-- Adds a node of the given kind. -/
def add (g : Graph) (kind : FragmentKind) : FragmentId × Graph :=
  (⟨g.size⟩, ⟨g.nodes.push { kind := kind }⟩)

/-- Changes one node. -/
def modify (g : Graph) (id : FragmentId) (f : Node → Node) : Graph :=
  ⟨g.nodes.modify id.index f⟩

@[simp]
theorem size_add (g : Graph) (kind : FragmentKind) : (g.add kind).2.size = g.size + 1 := by
  simp [add, size]

@[simp]
theorem size_modify (g : Graph) (id : FragmentId) (f : Node → Node) :
    (g.modify id f).size = g.size := by
  simp [modify, size]

/-- A new node has the given kind and no settings. -/
@[simp]
theorem node_add_self (g : Graph) (kind : FragmentKind) :
    (g.add kind).2.node (g.add kind).1 = { kind := kind } := by
  simp [add, node, size, Array.getD]

/-- Adding a node leaves the others alone. -/
theorem node_add_of_lt {g : Graph} {kind : FragmentKind} {id : FragmentId}
    (h : id.index < g.size) : (g.add kind).2.node id = g.node id := by
  simp only [size] at h
  simp [add, node, Array.getElem?_push, Nat.ne_of_lt h]

/-- Changing a node leaves the others alone. -/
theorem node_modify_of_ne {g : Graph} {id other : FragmentId} {f : Node → Node}
    (h : other ≠ id) : (g.modify id f).node other = g.node other := by
  have h' : id.index ≠ other.index := fun e => h (by
    cases other; cases id; simp only at e; rw [e])
  simp [modify, node, Array.getElem?_modify, h']

/-- Puts a node into another one. -/
def setParent (g : Graph) (parent id : FragmentId) : Graph :=
  g.modify id ({ · with parent := some parent })

/-- Adds a leaf. -/
def addNative (g : Graph) (pattern : NativePattern) : FragmentId × Graph := g.add (.native pattern)

/-- Adds a composite and puts the children into it. -/
def addComposite (g : Graph) (children : List FragmentId) : FragmentId × Graph :=
  let (id, g) := g.add (.composite children)
  (id, children.foldl (·.setParent id) g)

/-- Adds a node for the text up to `ahead`. -/
def addUpTo (g : Graph) (ahead : FragmentId) (direction : UntilDirection) : FragmentId × Graph :=
  let (ending, g) := g.add .expressionEnd
  let (id, g) := g.add (.upTo ahead ending direction)
  (id, (g.setParent id ahead).setParent id ending)

/-- Adds a composite with a single child and the given modifiers; the child keeps its own. -/
def addWrapper (g : Graph) (child : FragmentId) (modifiers : Modifiers) : FragmentId × Graph :=
  let (id, g) := g.addComposite [child]
  (id, g.modify id ({ · with modifiers := modifiers }))

/-- Adds an alternative to a node. -/
def pushAlternative (g : Graph) (id branch : FragmentId) : Graph :=
  (g.setParent id branch).modify id fun n => { n with alternatives := n.alternatives ++ [branch] }

/-! ## Reachable nodes -/

/-- Marks a node and everything reachable from it through nodes not yet marked.  No path of
unmarked nodes is longer than their number, which bounds the descent. -/
def mark (g : Graph) : (budget : Nat) → FragmentId → Array Bool → Array Bool
  | 0, _, marks => marks
  | budget + 1, id, marks =>
    if marks.getD id.index true then marks
    else (g.node id).links.foldl (fun marks next => g.mark budget next marks)
      (marks.setIfInBounds id.index true)

/-- For every node, whether it can be reached from the given one. -/
def reachable (g : Graph) (root : FragmentId) : Array Bool :=
  g.mark g.size root (Array.replicate g.size false)

/-- Points everything reachable from a node at a registry. -/
def adopt (g : Graph) (registry : RegistryId) (root : FragmentId) : Graph :=
  let marks := g.reachable root
  ⟨g.nodes.mapIdx fun i n =>
    if marks.getD i false then { n with registry := some registry } else n⟩

end Graph

end RegexComposition

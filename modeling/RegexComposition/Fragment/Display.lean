import RegexComposition.Fragment.Source

/-!
# Printing fragments

Three printed forms of a fragment: on one line, as an outline with a line for every node, and
as the structure of its nodes.  A fragment that is nested too deep is cut off, so that one
that contains itself can be printed.

Main definitions:

- `Graph.inline`: the fragment on one line.
- `Graph.outline`: the lines of the outline.
- `Graph.structureText`: the structure, without alternatives.
-/

namespace RegexComposition

/-- The word for a forward reference. -/
def UntilDirection.word : UntilDirection → String
  | ahead => "until"
  | behind => "behind_until"

/-- The texts one after the other with commas between them. -/
def commaSeparated (texts : List String) : String := String.intercalate ", " texts

namespace Graph

/-! ## One line -/

/-- A node on one line, cut off below `levels` levels.  Negation is an exclamation mark in front,
and alternatives stand between bars. -/
def inlineTo (g : Graph) : (levels : Nat) → FragmentId → String
  | 0, _ => "..."
  | levels + 1, id =>
    let n := g.node id
    let own :=
      match n.kind with
      | .native pattern => pattern.render
      | .composite children => "(" ++ commaSeparated (children.map (g.inlineTo levels)) ++ ")"
      | .upTo ahead _ direction => direction.word ++ "(" ++ g.inlineTo levels ahead ++ ")"
      | .expressionEnd => "end_of_expression"
    let branches := n.alternatives.map fun branch => " || " ++ g.inlineTo levels branch
    let body :=
      if n.alternatives.isEmpty then own else "(" ++ own ++ String.join branches ++ ")"
    (if n.modifiers.negated then "!" else "") ++ body ++ n.modifiers.render

/-- A fragment on one line. -/
def inline (g : Graph) (id : FragmentId) : String := g.inlineTo (maxNesting + 1) id

/-! ## Outline -/

/-- The line of a node in an outline, without its indentation. -/
def outlineHead (n : Node) : String :=
  let negated := if n.modifiers.negated then "!" else ""
  let skipped := if n.skipped then " (skip)" else ""
  match n.kind with
  | .native pattern => negated ++ pattern.render ++ n.modifiers.render ++ skipped
  | .composite _ => negated ++ "composite" ++ n.modifiers.render ++ skipped
  | .upTo _ _ direction => negated ++ direction.word ++ n.modifiers.render
  | .expressionEnd => "end_of_expression"

/-- The lines of a node and its descendants, each with its depth below `depth`, cut off below
`levels` levels. -/
def outlineTo (g : Graph) : (levels : Nat) → (depth : Nat) → FragmentId → List (Nat × String)
  | 0, depth, _ => [(depth, "...")]
  | levels + 1, depth, id =>
    let n := g.node id
    let parts :=
      match n.kind with
      | .composite children => children
      | .upTo ahead _ _ => [ahead]
      | .native _ | .expressionEnd => []
    (depth, outlineHead n) :: parts.flatMap (g.outlineTo levels (depth + 1)) ++
      n.alternatives.flatMap fun branch =>
        (depth, "or") :: g.outlineTo levels (depth + 1) branch

/-- A line indented by two spaces for each level. -/
def indented (depth : Nat) (line : String) : String :=
  String.ofList (List.replicate (2 * depth) ' ') ++ line

/-- The outline of a fragment, a line for every node. -/
def outline (g : Graph) (id : FragmentId) : String :=
  String.join <| (g.outlineTo (maxNesting + 1) 0 id).map fun (depth, line) =>
    indented depth line ++ "\n"

/-! ## Structure -/

/-- A text in quotation marks, with quotation marks, backslashes and control characters
escaped. -/
def quoted (text : String) : String :=
  let spell : Char → List Char
    | '"' => ['\\', '"']
    | '\\' => ['\\', '\\']
    | '\n' => ['\\', 'n']
    | '\r' => ['\\', 'r']
    | '\t' => ['\\', 't']
    | '\x00' => ['\\', '0']
    | c => [c]
  "\"" ++ String.ofList (text.toList.flatMap spell) ++ "\""

/-- Named fields in braces after the name of a structure. -/
def recordText (name : String) (fields : List (String × String)) : String :=
  name ++ " \x7b " ++ commaSeparated (fields.map fun (key, value) => key ++ ": " ++ value) ++ " \x7d"

/-- The structure of a set of flags. -/
def flagsStructure (flags : Flags) : String :=
  recordText "Flags" [("items", "[" ++ commaSeparated (flags.toList.map Flag.word) ++ "]")]

/-- The structure of modifiers. -/
def modifiersStructure (m : Modifiers) : String :=
  let quantifier :=
    match m.quantifier with
    | some q => "Some(" ++ quoted q ++ ")"
    | none => "None"
  recordText "Modifiers" [
    ("optional", toString m.optional), ("one_or_more", toString m.oneOrMore),
    ("zero_or_more", toString m.zeroOrMore), ("quantifier", quantifier),
    ("negated", toString m.negated)]

/-- The structure of a node.  A kind mentions older nodes only, so the number of nodes up to this
one bounds the descent. -/
def structureTo (g : Graph) : (budget : Nat) → FragmentId → String
  | 0, _ => ""
  | budget + 1, id =>
    let n := g.node id
    let kind :=
      match n.kind with
      | .native pattern =>
        "Native(" ++ recordText "NativePattern"
          [("source", quoted pattern.source), ("flags", flagsStructure pattern.flags)] ++ ")"
      | .composite children =>
        "Composite([" ++ commaSeparated (children.map (g.structureTo budget)) ++ "])"
      | .upTo ahead ending direction =>
        recordText "Until" [
          ("ahead", g.structureTo budget ahead), ("end", g.structureTo budget ending),
          ("direction", match direction with | .ahead => "Ahead" | .behind => "Behind")]
      | .expressionEnd => "EndOfExpression"
    "Fragment(" ++ kind ++ ", " ++ modifiersStructure n.modifiers ++ ")"

/-- The structure of a fragment: its kind and modifiers, and those of its parts. -/
def structureText (g : Graph) (id : FragmentId) : String := g.structureTo (id.index + 1) id

end Graph

end RegexComposition

import DocPages.Concrete.Basic
import DocPages.Text.Case
import DocPages.Tree.Basic

/-!
# Sketches

A `Sketch` is a syntax tree that is not yet laid out in an array.  `Concrete.part` makes one
from a concrete tree: tokens, comments and single parentheses drop out, and phrases take the
kinds of nodes.  The fields of a node stand in the order in which their nodes are laid out.
-/

namespace DocPages

mutual

/-- A syntax tree. -/
inductive Sketch where
  | node (kind : NodeKind) (extent : Extent) (fields : List (String × SketchField))

/-- What a field of a syntax tree holds; a text is given by the bytes it spans. -/
inductive SketchField where
  | nothing
  | one (s : Sketch)
  | many (ss : List Sketch)
  | span (start stop : Nat)

end

instance : Inhabited Sketch := ⟨.node default default []⟩

namespace SketchField

/-- A field that holds a syntax tree or nothing. -/
def ofOption : Option Sketch → SketchField
  | some s => one s
  | none => nothing

end SketchField

namespace Concrete

/-- What a parent needs to know of a child: its label, what is made of it, and what is made of
its named children. -/
structure Part where
  label : Label
  self : Sketch
  inner : List Sketch
  deriving Inhabited

/-- The kinds of phrases whose name as a node is not made from their kind. -/
def namedKinds : List (String × String) :=
  [("arrow_function", "ArrowFunctionExpression"), ("array", "ArrayExpression"),
    ("ternary_expression", "ConditionalExpression"), ("this", "ThisExpression"),
    ("super", "Super"), ("subscript_expression", "ComputedMemberExpression"),
    ("sequence_expression", "SequenceExpression"), ("class", "ClassExpression"),
    ("spread_element", "SpreadElement")]

/-- The words between low lines, each with a capital. -/
def camelCase (s : String) : String :=
  String.ofList ((s.toList.splitOn '_').flatMap Text.capitalize)

/-- The kind of node for a phrase that has no rule of its own. -/
def otherKind (kind : String) : NodeKind :=
  NodeKind.ofName ((namedKinds.lookup kind).getD (camelCase kind))

/-- The first part that fills a field. -/
def partOf? (parts : List Part) (field : String) : Option Part :=
  parts.find? fun p => p.label.field == some field

/-- The field with what is made of the first part that fills it. -/
def fieldOf (parts : List Part) (field : String) : SketchField :=
  SketchField.ofOption ((partOf? parts field).map Part.self)

/-- The parts that are named and no comments. -/
def phrases (parts : List Part) : List Part :=
  parts.filter fun p => p.label.named && p.label.kind != commentKind

/-- The parameters of a function. -/
def parametersOf (parts : List Part) : SketchField :=
  .many (((partOf? parts "parameters").map Part.inner).getD [])

/-- The arguments of a call; what stands in the place of a list of them is the only one. -/
def argumentsOf (parts : List Part) : SketchField :=
  .many (match partOf? parts "arguments" with
    | none => []
    | some p => if p.label.kind = "arguments" then p.inner else [p.self])

/-- What is made of a phrase with its parts. -/
def sketchOf (l : Label) (parts : List Part) : Sketch :=
  let make (kind : NodeKind) (fields : List (String × SketchField)) : Sketch :=
    .node kind l.rows fields
  let inner := (phrases parts).map Part.self
  let text := SketchField.span l.bytes.1 l.bytes.2
  let identifier := make .identifier [("name", text)]
  let first := SketchField.ofOption inner.head?
  match l.kind with
  | "function_declaration" | "generator_function_declaration" =>
    make .functionDeclaration
      [("id", fieldOf parts "name"), ("params", parametersOf parts),
        ("body", fieldOf parts "body")]
  | "function_expression" | "function" | "generator_function" =>
    make .functionExpression
      [("id", fieldOf parts "name"), ("params", parametersOf parts),
        ("body", fieldOf parts "body")]
  | "statement_block" => make .blockStatement [("body", .many inner)]
  | "expression_statement" => make .expressionStatement [("expression", first)]
  | "assignment_expression" | "augmented_assignment_expression" =>
    make .assignmentExpression [("left", fieldOf parts "left"), ("right", fieldOf parts "right")]
  | "call_expression" =>
    make .callExpression
      [("arguments", argumentsOf parts), ("callee", fieldOf parts "function")]
  | "object" => make .objectExpression [("properties", .many inner)]
  | "pair" => make .property [("key", fieldOf parts "key"), ("value", fieldOf parts "value")]
  | "method_definition" =>
    let function := make .functionExpression
      [("id", .nothing), ("params", parametersOf parts), ("body", fieldOf parts "body")]
    make .property [("value", .one function), ("key", fieldOf parts "name")]
  | "shorthand_property_identifier" =>
    make .property [("key", .one identifier), ("value", .one identifier)]
  | "variable_declaration" | "lexical_declaration" =>
    make .variableDeclaration
      [("declarations", .many (((phrases parts).filter fun p =>
        p.label.kind == "variable_declarator").map Part.self))]
  | "variable_declarator" =>
    make .variableDeclarator [("id", fieldOf parts "name"), ("init", fieldOf parts "value")]
  | "member_expression" =>
    make .memberExpression
      [("object", fieldOf parts "object"), ("property", fieldOf parts "property")]
  | "identifier" | "property_identifier" | "private_property_identifier"
  | "shorthand_property_identifier_pattern" | "statement_identifier" | "undefined" => identifier
  | "return_statement" => make .returnStatement [("argument", first)]
  | "empty_statement" => make .emptyStatement []
  | "string" | "number" | "true" | "false" | "null" | "regex" | "template_string" =>
    make .literal [("raw", text)]
  | "parenthesized_expression" =>
    match inner with
    | [s] => s
    | _ => make (otherKind l.kind) [("children", .many inner)]
  | _ => make (otherKind l.kind) [("children", .many inner)]

mutual

/-- What a parent needs to know of a tree. -/
def part : Concrete → Part
  | node l cs =>
    let parts := partsIn cs
    ⟨l, sketchOf l parts, (phrases parts).map Part.self⟩
termination_by structural c => c

/-- What a parent needs to know of each tree. -/
def partsIn : List Concrete → List Part
  | [] => []
  | c :: cs => part c :: partsIn cs
termination_by structural cs => cs

end

end Concrete

end DocPages

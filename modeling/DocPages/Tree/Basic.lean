import DocPages.Comment

/-!
# Syntax trees

A `Tree` keeps its nodes in an array; a node refers to others by their places in it.  A node
has a kind, the lines it spans, and named fields that hold a node, a list, a text or nothing.
Nothing keeps a field from holding something else than it should; whoever looks at it meets a
`Tree.Fault` then.
-/

namespace DocPages

/-- The place of a node in its tree. -/
abbrev Handle := Nat

/-- What a node is.  Kinds that play no part in finding and naming functions keep only their
name. -/
inductive NodeKind where
  | functionDeclaration
  | functionExpression
  | blockStatement
  | expressionStatement
  | assignmentExpression
  | callExpression
  | objectExpression
  | property
  | variableDeclaration
  | variableDeclarator
  | memberExpression
  | identifier
  | literal
  | emptyStatement
  | returnStatement
  | other (name : String)
  deriving DecidableEq, Inhabited

namespace NodeKind

/-- The name of a kind. -/
def name : NodeKind → String
  | functionDeclaration => "FunctionDeclaration"
  | functionExpression => "FunctionExpression"
  | blockStatement => "BlockStatement"
  | expressionStatement => "ExpressionStatement"
  | assignmentExpression => "AssignmentExpression"
  | callExpression => "CallExpression"
  | objectExpression => "ObjectExpression"
  | property => "Property"
  | variableDeclaration => "VariableDeclaration"
  | variableDeclarator => "VariableDeclarator"
  | memberExpression => "MemberExpression"
  | identifier => "Identifier"
  | literal => "Literal"
  | emptyStatement => "EmptyStatement"
  | returnStatement => "ReturnStatement"
  | other name => name

/-- The kinds that play a part in finding and naming functions. -/
def known : List NodeKind :=
  [functionDeclaration, functionExpression, blockStatement, expressionStatement,
    assignmentExpression, callExpression, objectExpression, property, variableDeclaration,
    variableDeclarator, memberExpression, identifier, literal, emptyStatement, returnStatement]

/-- The kind with a name. -/
def ofName (n : String) : NodeKind :=
  (known.find? fun k => k.name == n).getD (other n)

/-- Is a node of this kind a function? -/
def isFunction : NodeKind → Bool
  | functionDeclaration | functionExpression => true
  | _ => false

end NodeKind

/-- What a field of a node holds. -/
inductive FieldValue where
  | nothing
  | node (h : Handle)
  | list (items : List FieldValue)
  | text (s : String)
  deriving Inhabited

/-- What a field holds that holds several nodes. -/
def FieldValue.nodes (hs : List Handle) : FieldValue :=
  .list (hs.map .node)

/-- A node of a tree. -/
structure Node where
  kind : NodeKind
  extent : Extent
  fields : List (String × FieldValue) := []
  deriving Inhabited

namespace Node

/-- What a field holds; nothing if the node has no such field. -/
def field (n : Node) (key : String) : FieldValue :=
  (n.fields.lookup key).getD .nothing

/-- The node with a field set. -/
def setField (n : Node) (key : String) (v : FieldValue) : Node :=
  { n with fields := (key, v) :: n.fields.filter fun f => f.1 != key }

/-- What is said of a node whose kind is not known.  Lines count from one here. -/
def unknownMessage (n : Node) : String :=
  "Unknown node type \"" ++ n.kind.name ++ "\" at line " ++ toString (n.extent.first + 1)

end Node

/-- The nodes of a program, its statements and its comments. -/
structure Tree where
  nodes : Array Node := #[]
  body : List Handle := []
  comments : List Comment := []
  deriving Inhabited

namespace Tree

/-- The number of nodes. -/
def size (t : Tree) : Nat := t.nodes.size

/-- The node at a place. -/
def node? (t : Tree) (h : Handle) : Option Node := t.nodes[h]?

/-- The tree with one more node, whose place is the size of the tree before. -/
def push (t : Tree) (n : Node) : Tree :=
  { t with nodes := t.nodes.push n }

/-- The tree with a node changed. -/
def modify (t : Tree) (h : Handle) (f : Node → Node) : Tree :=
  { t with nodes := t.nodes.modify h f }

/-- The place that a number stands for, if there is a node at it.  Places below zero count from
the end. -/
def place? (t : Tree) (i : Int) : Option Handle :=
  let j := if i < 0 then i + t.size else i
  if 0 ≤ j && j < t.size then some j.toNat else none

/-- Is there a function at this place? -/
def isFunction (t : Tree) (h : Handle) : Bool :=
  (t.node? h).any fun n => n.kind.isFunction

@[simp] theorem size_push (t : Tree) (n : Node) :
  (t.push n).size = t.size + 1
  := by
  simp [size, push]

theorem node?_push (t : Tree) (n : Node) (h : Handle) :
  (t.push n).node? h = if h = t.size then some n else t.node? h
  := by
  unfold node? push size
  exact Array.getElem?_push

end Tree

end DocPages

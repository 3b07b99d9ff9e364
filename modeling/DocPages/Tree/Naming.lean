import DocPages.Text.Search
import DocPages.Tree.Walk

/-!
# Names of functions

A function takes its name from itself or from what it is assigned to: the function in
`Foo.prototype.bar = function() {}` is `Foo#bar`, and that in `var Foo = { bar: function() {} }`
is `Foo.bar`.  `Tree.name?` looks for the name of a node, down its fields and up the links to
parents.  It comes to no node twice: a node it has been to has no name the second time.
-/

namespace DocPages

/-- Two names joined by a point, if there are two. -/
def joinNames : Option String → Option String → Option String
  | some left, some right => some (left ++ "." ++ right)
  | _, _ => none

/-- A name in which the first prototype that stands between two segments is marked. -/
def markPrototype (s : String) : String :=
  String.ofList (Text.replaceFirst ".prototype.".toList ['#'] s.toList)

/-- What keeps a name from being found: something else where a node should be, or something else
where the text of a name should be. -/
inductive NameFault where
  | noNode
  | noText
  deriving DecidableEq, Inhabited

namespace Tree

/-- The name of what a field holds and the nodes it has been looked for at, with those in `seen`
before.  The search goes at most `depth` nodes far. -/
def nameWithin (t : Tree) (links : Links) :
    Nat → List Handle → FieldValue → Except NameFault (Option String × List Handle)
  | _, seen, .nothing => .ok (none, seen)
  | _, _, .list _ | _, _, .text _ => .error .noNode
  | 0, seen, .node _ => .ok (none, seen)
  | depth + 1, seen, .node h =>
    match t.node? h with
    | none => .ok (none, seen)
    | some n =>
      if h ∈ seen then .ok (none, seen)
      else
        let seen := h :: seen
        let nameOf := t.nameWithin links depth
        let parent : FieldValue := (links h).elim .nothing .node
        match n.kind with
        | .identifier =>
          match n.field "name" with
          | .nothing => .ok (none, seen)
          | .text s => .ok (some s, seen)
          | .node _ | .list _ => .error .noText
        | .functionDeclaration | .variableDeclarator => nameOf seen (n.field "id")
        | .assignmentExpression => nameOf seen (n.field "left")
        | .expressionStatement => nameOf seen (n.field "expression")
        | .memberExpression => do
          let (object, seen) ← nameOf seen (n.field "object")
          let (property, seen) ← nameOf seen (n.field "property")
          return ((joinNames object property).map markPrototype, seen)
        | .property => do
          let (outer, seen) ← nameOf seen parent
          let (key, seen) ← nameOf seen (n.field "key")
          return (joinNames outer key, seen)
        | _ => nameOf seen parent

/-- The name of a node, if it has one. -/
def name? (t : Tree) (links : Links) (h : Option Handle) : Except NameFault (Option String) :=
  (t.nameWithin links (t.size + 1) [] (h.elim .nothing .node)).map Prod.fst

end Tree

end DocPages

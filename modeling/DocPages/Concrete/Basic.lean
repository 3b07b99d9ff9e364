import DocPages.Comment

/-!
# Concrete trees

A `Concrete` tree is what a reader of a programming language makes of a source text: every
token and every phrase is a node.  A node has the kind of its phrase, perhaps the field of its
parent that it fills, and the rows and bytes it spans.  A node that is missing stands for
something that should have been there.
-/

namespace DocPages

/-- What is known of a node apart from its children. -/
structure Concrete.Label where
  kind : String
  field : Option String := none
  named : Bool := true
  rows : Extent
  bytes : Nat × Nat
  missing : Bool := false
  deriving DecidableEq, Inhabited

/-- A concrete tree. -/
inductive Concrete where
  | node (label : Concrete.Label) (children : List Concrete)
  deriving Inhabited

namespace Concrete

/-- What is known of the root apart from its children. -/
def label : Concrete → Label
  | node l _ => l

/-- The children of the root. -/
def children : Concrete → List Concrete
  | node _ cs => cs

/-- The kind of nodes that are comments. -/
def commentKind : String := "comment"

mutual

/-- The first node, parents before children, that is an error or missing. -/
def firstFault? : Concrete → Option Label
  | node l cs => if l.kind = "ERROR" || l.missing then some l else firstFaultIn? cs
termination_by structural c => c

/-- The first node of some trees that is an error or missing. -/
def firstFaultIn? : List Concrete → Option Label
  | [] => none
  | c :: cs => (firstFault? c).or (firstFaultIn? cs)
termination_by structural cs => cs

end

/-- The row in which reading went wrong: that of the first fault, else that of the root. -/
def faultRow (c : Concrete) : Int :=
  ((firstFault? c).getD c.label).rows.first

end Concrete

end DocPages

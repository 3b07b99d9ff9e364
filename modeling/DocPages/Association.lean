import DocPages.Grouping
import DocPages.Notice
import DocPages.Tree.Walk

/-!
# Which comment documents which function

A doc comment documents the functions that start on the line after its last one.
`Tree.functionIndex` lists the functions of a walk by the line they start on, and
`associate` matches comments with functions.
-/

namespace DocPages

namespace Tree

/-- The line on which a node starts. -/
def firstLine (t : Tree) (h : Handle) : Int :=
  ((t.node? h).map fun n => n.extent.first).getD 0

/-- The functions of a walk by the line on which they start, lines in the order of their first
function. -/
def functionIndex (t : Tree) (trail : Walk.Trail) : List (Int × List Handle) :=
  groupBy t.firstLine (t.functions trail)

end Tree

/-- Functions and the doclet that documents them. -/
structure Match where
  functions : List Handle
  doclet : Doclet
  deriving Inhabited

/-- The functions that a comment documents, with what it says, and notices if it is passed
over.  A comment before no function is passed over in silence; one that cannot be read or has
no description is not. -/
def associateOne (index : List (Int × List Handle)) (c : Comment) : List Notice × Option Match :=
  match index.lookup (c.extent.last + 1) with
  | none => ([], none)
  | some functions =>
    let passedOver := Notice.undescribed c.extent.first
    match Doclet.ofComment c with
    | .error e => ([.unreadable c.extent.first e, passedOver], none)
    | .ok doclet =>
      if doclet.description.isEmpty then ([passedOver], none)
      else ([], some { functions, doclet })

/-- The functions that comments document, in the order of the comments. -/
def associate (index : List (Int × List Handle)) (cs : List Comment) :
    List Notice × List Match :=
  (cs.flatMap fun c => (associateOne index c).1,
    cs.filterMap fun c => (associateOne index c).2)

end DocPages

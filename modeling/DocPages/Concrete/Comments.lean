import DocPages.Concrete.Basic
import DocPages.Text.Search
import DocPages.Text.Utf8

/-!
# Comments of a concrete tree

`Concrete.commentLabels` lists the comments of a tree in the order in which they stand, and
`Concrete.comments?` reads their texts from the source.
-/

namespace DocPages

namespace Concrete

mutual

/-- The comments of a tree. -/
def commentLabels : Concrete → List Label
  | node l cs => if l.kind = commentKind then [l] else commentLabelsIn cs
termination_by structural c => c

/-- The comments of some trees. -/
def commentLabelsIn : List Concrete → List Label
  | [] => []
  | c :: cs => commentLabels c ++ commentLabelsIn cs
termination_by structural cs => cs

end

end Concrete

namespace Comment

/-- A comment without its delimiters. -/
def ofText (cs : List Char) (extent : Extent) : Comment :=
  match Text.after? ['/', '*'] cs with
  | some r => ⟨String.ofList (r.take (r.length - 2)), extent, .block⟩
  | none => ⟨String.ofList (cs.drop 2), extent, .line⟩

/-- The comment that a node of a concrete tree is. -/
def ofLabel? (source : List Char) (l : Concrete.Label) : Option Comment :=
  (Text.slice? l.bytes.1 l.bytes.2 source).map fun cs => ofText cs l.rows

end Comment

namespace Concrete

/-- The comments of a tree read from the source.  There is no answer if one starts or ends
inside a character. -/
def comments? (source : List Char) (c : Concrete) : Option (List Comment) :=
  c.commentLabels.mapM (Comment.ofLabel? source)

end Concrete

end DocPages

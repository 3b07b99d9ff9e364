/-!
# Comments

A `Comment` is a comment of a source text without its delimiters, with the lines it spans.
Lines count from zero.
-/

namespace DocPages

/-- The lines something spans, the last one included. -/
structure Extent where
  first : Int
  last : Int
  deriving DecidableEq, Inhabited

/-- Is a comment closed by a delimiter or by the end of its line? -/
inductive CommentKind where
  | block
  | line
  deriving DecidableEq, Inhabited

/-- The name of a kind of comment. -/
def CommentKind.label : CommentKind → String
  | block => "Block"
  | line => "Line"

/-- A comment without its delimiters. -/
structure Comment where
  value : String
  extent : Extent
  kind : CommentKind := .block
  deriving DecidableEq, Inhabited

end DocPages

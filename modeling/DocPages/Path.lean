import DocPages.Text.Search

/-!
# Paths

A `Path` names a file by the directories that lead to it.  Empty parts and single points are
left out, so that different texts may give one path.
-/

namespace DocPages

/-- A path: the root it starts from, which is empty for a relative path, and its parts. -/
structure Path where
  root : String := ""
  parts : List String
  deriving DecidableEq, Inhabited

namespace Path

/-- The root of a path.  Two slashes alone are a root of their own. -/
def rootOf (cs : List Char) : String :=
  match (cs.takeWhile (· == '/')).length with
  | 0 => ""
  | 2 => "//"
  | _ => "/"

/-- The path that a text names. -/
def parse (s : String) : Path :=
  { root := rootOf s.toList
    parts := ((s.toList.splitOn '/').map String.ofList).filter fun p => p != "" && p != "." }

/-- The text of a path. -/
def text (p : Path) : String :=
  if p.root.isEmpty && p.parts.isEmpty then "." else p.root ++ "/".intercalate p.parts

/-- The last part of a path. -/
def name (p : Path) : String :=
  p.parts.getLast?.getD ""

/-- The path without its last part. -/
def parent (p : Path) : Path :=
  { p with parts := p.parts.dropLast }

/-- The path that `q` names seen from `p`. -/
def join (p q : Path) : Path :=
  if q.root.isEmpty then { p with parts := p.parts ++ q.parts } else q

/-- The part of a text from its last point on, if it has one. -/
def fromLastPoint? : List Char → Option (List Char)
  | [] => none
  | c :: cs => (fromLastPoint? cs).or (if c = '.' then some (c :: cs) else none)

/-- The last part of a path from its last point on.  It is empty if there is no point, or if
that point starts or ends the part. -/
def suffix (p : Path) : String :=
  match p.name.toList with
  | [] => ""
  | _ :: cs =>
    match fromLastPoint? cs with
    | some (c :: d :: r) => String.ofList (c :: d :: r)
    | _ => ""

/-- Suffixes of files that hold scripts. -/
def scriptSuffixes : List String := [".js", ".mjs", ".cjs"]

/-- Does the path name a file that holds a script? -/
def isScript (p : Path) : Bool :=
  scriptSuffixes.contains p.suffix.toLower

end Path

end DocPages

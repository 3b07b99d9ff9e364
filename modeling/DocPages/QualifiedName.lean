import DocPages.Text.Search

/-!
# Qualified names

A qualified name locates a function in its namespace: `Foo.bar` is a static member of `Foo`
and `Foo#bar` an instance member.  `QualifiedName.parse` splits a name into its parts, and
`QualifiedName.signature` shows how the function is defined.
-/

namespace DocPages

/-- A name with its parts. -/
structure QualifiedName where
  name : String
  shortName : String
  outer? : Option String
  identifier : String
  deriving DecidableEq, Inhabited

namespace QualifiedName

/-- A point or a number sign. -/
def isSeparator (c : Char) : Bool :=
  c == '.' || c == '#'

/-- The segments of a name, between its separators. -/
def segments (cs : List Char) : List (List Char) :=
  cs.splitOnP isSeparator

/-- A text with each separator replaced by a dash: the identifier of what is named. -/
def anchor (s : String) : String :=
  String.ofList (s.toList.map fun c => if isSeparator c then '-' else c)

/-- The parts of a name.  The last segment is the short name, and the others, joined by points,
are the namespace unless that is empty. -/
def parse (s : String) : QualifiedName :=
  let parts := segments s.toList
  let outer := ['.'].intercalate parts.dropLast
  { name := s
    shortName := String.ofList (parts.getLast?.getD [])
    outer? := if outer.isEmpty then none else some (String.ofList outer)
    identifier := anchor s }

/-- Is the name that of a static member? -/
def isStatic (n : QualifiedName) : Bool :=
  !n.name.toList.contains '#'

/-- How a function with this name and these parameters is defined.  There is no answer for a
name whose only separator is its first character: it has neither a namespace nor is it
short. -/
def signature (n : QualifiedName) (params : List String) : Option String :=
  let params := "(" ++ ", ".intercalate params ++ ")"
  if n.name = n.shortName then some ("function " ++ n.shortName ++ params)
  else n.outer?.map fun ns => ns ++ "." ++ n.shortName ++ " = function" ++ params

end QualifiedName

end DocPages

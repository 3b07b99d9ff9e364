import DocPages.Concrete.Tree
import DocPages.Script.Statement

/-!
# Reading scripts

`Script.grammar` puts the readers of all phrases together, to a depth of nesting, and
`Script.parse` reads a script.  Every level of nesting takes at least one character, so the
length of the script is deep enough.
-/

namespace DocPages

namespace Script

/-- The readers of phrases that are nested at most so deep. -/
def grammar : Nat → Grammar
  | 0 => .none
  | depth + 1 =>
    let g := grammar depth
    { statement := statement g
      cover := cover g
      operand := operand g
      construction := construction g }

/-- Read the line that names an interpreter. -/
def hashBangLine : Read Concrete :=
  node "hash_bang_line" do
    token "#!"
    pass ((← get).rest.takeWhile (· != '\n')).length
    return []

/-- The concrete tree of a script, its comments after its statements, or the row where the
first statement starts that cannot be read. -/
def parse (source : String) : Except Nat Concrete :=
  let cs := source.toList
  let read : Read (List Concrete) := do
    let first ← perhaps hashBangLine
    let body ← many (grammar (cs.length + 1)).statement
    return first.toList ++ body
  match read { rest := cs } with
  | none => .error 0
  | some (body, c) =>
    let c := c.skip
    if c.rest.isEmpty then
      .ok (phrase "program" ⟨0, 0⟩ c.mark (body ++ c.comments.reverse))
    else .error c.mark.row

/-- The syntax tree of a script. -/
def toTree (source : String) : Except SourceError Tree :=
  match parse source with
  | .error row => .error (.fault row)
  | .ok c => c.toTree source false

end Script

end DocPages

import DocPages.Concrete.Comments
import DocPages.Concrete.Sketch

/-!
# From concrete trees to syntax trees

`Sketch.layOut?` puts the nodes of a sketch into a tree, each after those it refers to, and
`Concrete.toTree` makes the syntax tree of a whole source text.
-/

namespace DocPages

namespace Sketch

mutual

/-- The tree with the nodes of a sketch added, the root last.  There is no answer if a text
starts or ends inside a character of the source. -/
def layOut? (source : List Char) : Sketch → Tree → Option Tree
  | node kind extent fields, t =>
    (layOutFields? source fields t).map fun (fields, t) => t.push ⟨kind, extent, fields⟩
termination_by structural s => s

/-- The tree with the nodes of some sketches added, and the places of their roots. -/
def layOutAll? (source : List Char) : List Sketch → Tree → Option (List Handle × Tree)
  | [], t => some ([], t)
  | s :: ss, t =>
    (layOut? source s t).bind fun t =>
      let h := t.size - 1
      (layOutAll? source ss t).map fun (hs, t) => (h :: hs, t)
termination_by structural ss => ss

/-- The tree with the nodes of some fields added, and the fields that refer to them. -/
def layOutFields? (source : List Char) :
    List (String × SketchField) → Tree → Option (List (String × FieldValue) × Tree)
  | [], t => some ([], t)
  | f :: fs, t =>
    (layOutKeyed? source f t).bind fun (f, t) =>
      (layOutFields? source fs t).map fun (fs, t) => (f :: fs, t)
termination_by structural fs => fs

/-- The tree with the nodes of a field added, and the field that refers to them. -/
def layOutKeyed? (source : List Char) :
    String × SketchField → Tree → Option ((String × FieldValue) × Tree)
  | (key, v), t => (layOutField? source v t).map fun (v, t) => ((key, v), t)
termination_by structural f => f

/-- The tree with the nodes of what a field holds added, and what refers to them. -/
def layOutField? (source : List Char) : SketchField → Tree → Option (FieldValue × Tree)
  | .nothing, t => some (.nothing, t)
  | .one s, t => (layOut? source s t).map fun t => (.node (t.size - 1), t)
  | .many ss, t => (layOutAll? source ss t).map fun (hs, t) => (.nodes hs, t)
  | .span start stop, t =>
    (Text.slice? start stop source).map fun cs => (.text (String.ofList cs), t)
termination_by structural v => v

end

end Sketch

/-- Why there is no syntax tree of a source text. -/
inductive SourceError where
  | fault (row : Int)
  | splitCharacter
  deriving DecidableEq, Inhabited

/-- What is said of a source text that has no syntax tree. -/
def SourceError.message : SourceError → String
  | fault row => "Syntax error near line " ++ toString row
  | splitCharacter => "A node starts or ends inside a character"

namespace Concrete

/-- The syntax tree of a source text whose concrete tree is given.  If there is an error in
the source, it has none. -/
def toTree (source : String) (hasError : Bool) (root : Concrete) : Except SourceError Tree :=
  if hasError then .error (.fault root.faultRow)
  else
    let cs := source.toList
    match Sketch.layOutAll? cs (root.part.inner) {} with
    | none => .error .splitCharacter
    | some (body, t) =>
      match root.comments? cs with
      | none => .error .splitCharacter
      | some comments => .ok { t with body, comments }

end Concrete

end DocPages

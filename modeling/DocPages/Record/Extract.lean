import DocPages.Record.Basic
import DocPages.TypeExpr.Format

/-!
# Records from doclets

`Record.ofDoclet` makes the record of a function from its name and what its doc comment says.
Descriptions go through a renderer.
-/

namespace DocPages

/-- Turns the text of a description into markup. -/
abbrev Renderer := String → String

/-- Why there is no record of a function that has a name and a doclet. -/
inductive RecordError where
  | unformattable (t : TypeExpr)
  | noSignature (name : String)
  deriving Inhabited

/-- What is said of a function that has no record. -/
def RecordError.message : RecordError → String
  | unformattable t => t.unformattableMessage
  | noSignature _ => "unsupported operand type(s) for +: 'NoneType' and 'str'"

namespace Record

/-- The displayed form of a type, if there is a type. -/
def displayType : Option TypeExpr → Except RecordError (Option String)
  | none => .ok none
  | some t =>
    match t.format with
    | .ok s => .ok (some s)
    | .error t => .error (.unformattable t)

/-- The parameter that a tag describes. -/
def paramOf (render : Renderer) (tag : Tag) : Except RecordError Param :=
  (displayType tag.type).map fun type =>
    { name := tag.name, type, description := render (tag.description.getD "") }

/-- The parameters that a doclet describes. -/
def paramsOf (render : Renderer) (doc : Doclet) : Except RecordError (List Param) :=
  (doc.tags.filter fun t => t.title == "param").mapM (paramOf render)

/-- The result that a doclet describes first. -/
def returnsOf (render : Renderer) (doc : Doclet) : Except RecordError (Option Returned) :=
  match doc.tag? "returns" with
  | none => .ok none
  | some tag =>
    (displayType tag.type).map fun type =>
      some { type, description := render (tag.description.getD "") }

/-- The record of a function with a name and a doclet. -/
def ofDoclet (render : Renderer) (handlers : List (String → Bool)) (name : String)
    (doc : Doclet) : Except RecordError Record := do
  let params ← paramsOf render doc
  let returns ← returnsOf render doc
  let name := QualifiedName.parse name
  match name.signature (params.map fun p => p.name.getD "") with
  | none => .error (.noSignature name.name)
  | some signature =>
    pure
      { name
        description := render doc.description
        params
        returns
        isConstructor := doc.hasTag "constructor"
        isPublic := doc.hasTag "public"
        signature
        examples := ExampleList.ofDoclet handlers doc
        benchmarks := BenchmarkList.ofDoclet doc
        tags := doc.tags.map Tag.title }

end Record

end DocPages

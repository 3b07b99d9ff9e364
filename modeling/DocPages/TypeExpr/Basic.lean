import DocPages.Value.Basic

/-!
# Type expressions

`TypeExpr` is the type of the type expressions written in doc tags.  A field of a record type
is also a shape of its own, and a list of types or a bare value may stand where a type is
wanted; none of these has a displayed form.  `TypeExpr.describe` writes out a shape with all its
parts for messages.
-/

namespace DocPages

/-- A type expression. -/
inductive TypeExpr where
  | name (n : String)
  | all
  | null
  | application (expression : TypeExpr) (arguments : List TypeExpr)
  | field (key : String) (value : TypeExpr)
  | record (fields : List (String × TypeExpr))
  | optional (expression : TypeExpr)
  | union (elements : List TypeExpr)
  | rest (expression : TypeExpr)
  | function (params : List TypeExpr) (result : Option TypeExpr)
  | nullable (expression : TypeExpr)
  | nonNullable (expression : TypeExpr)
  | list (items : List TypeExpr)
  | value (v : Value)
  deriving Inhabited

namespace TypeExpr

/-- The name of a shape in messages. -/
def shapeName : TypeExpr → String
  | name _ => "NameExpression"
  | all => "AllLiteral"
  | null => "NullLiteral"
  | application .. => "TypeApplication"
  | field .. => "FieldType"
  | record _ => "RecordType"
  | optional _ => "OptionalType"
  | union _ => "UnionType"
  | rest _ => "RestType"
  | function .. => "FunctionType"
  | nullable _ => "NullableType"
  | nonNullable _ => "NonNullableType"
  | list _ => "list"
  | value v => v.kindName

/-- A shape with its named parts, as messages write it. -/
private def withParts (shape : String) (parts : List (String × String)) : String :=
  shape ++ "(" ++ ", ".intercalate (parts.map fun p => p.1 ++ "=" ++ p.2) ++ ")"

/-- Texts between brackets. -/
private def bracketed (texts : List String) : String :=
  "[" ++ ", ".intercalate texts ++ "]"

mutual

/-- A type with all its parts, as messages write it. -/
def describe : TypeExpr → String
  | name n => withParts "NameExpression" [("name", Text.quoted n)]
  | all => withParts "AllLiteral" []
  | null => withParts "NullLiteral" []
  | application e args =>
    withParts "TypeApplication"
      [("expression", describe e), ("applications", bracketed (describeAll args))]
  | field k t => withParts "FieldType" [("key", Text.quoted k), ("value", describe t)]
  | record fields => withParts "RecordType" [("fields", bracketed (describeFields fields))]
  | optional e => withParts "OptionalType" [("expression", describe e)]
  | union es => withParts "UnionType" [("elements", bracketed (describeAll es))]
  | rest e => withParts "RestType" [("expression", describe e)]
  | function params result =>
    withParts "FunctionType"
      [("params", bracketed (describeAll params)), ("result", describeResult result)]
  | nullable e => withParts "NullableType" [("expression", describe e)]
  | nonNullable e => withParts "NonNullableType" [("expression", describe e)]
  | list items => bracketed (describeAll items)
  | value v => v.quotedText
termination_by structural t => t

/-- `describe` of each type. -/
def describeAll : List TypeExpr → List String
  | [] => []
  | t :: ts => describe t :: describeAll ts
termination_by structural ts => ts

/-- `describe` of the result of a function, if there is one. -/
def describeResult : Option TypeExpr → String
  | none => "None"
  | some t => describe t
termination_by structural r => r

/-- Each field of a record with its key and its type. -/
def describeFields : List (String × TypeExpr) → List String
  | [] => []
  | f :: fs => describeField f :: describeFields fs
termination_by structural fs => fs

/-- A field of a record with its key and its type. -/
def describeField : String × TypeExpr → String
  | (k, t) => withParts "FieldType" [("key", Text.quoted k), ("value", describe t)]
termination_by structural f => f

end

/-- The types that are parts of a type. -/
def parts : TypeExpr → List TypeExpr
  | application e args => e :: args
  | field _ t => [t]
  | record fields => fields.map Prod.snd
  | optional e | rest e | nullable e | nonNullable e => [e]
  | union es | list es => es
  | function params result => params ++ result.toList
  | _ => []

end TypeExpr

end DocPages

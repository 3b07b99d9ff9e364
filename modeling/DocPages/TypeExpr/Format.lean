import DocPages.TypeExpr.Basic

/-!
# The displayed form of types

`TypeExpr.format` is the text by which documentation shows a type.  Nullable and non-nullable
types, lone fields, lists and bare values have none; the first one met is returned instead, the
arguments of an application being met before the type they are applied to.
-/

namespace DocPages

namespace TypeExpr

mutual

/-- The displayed form of a type, or the part that has none. -/
def format : TypeExpr → Except TypeExpr String
  | name n => .ok n
  | all => .ok "*"
  | null => .ok "null"
  | application e args => do
    let as ← formatAll args
    let t ← format e
    .ok (t ++ ".<" ++ "|".intercalate as ++ ">")
  | record fields => do
    let fs ← formatFields fields
    .ok ("\x7b" ++ ", ".intercalate fs)
  | optional e => do
    let t ← format e
    .ok (t ++ "?")
  | union es => do
    let ts ← formatAll es
    .ok ("|".intercalate ts)
  | rest e => do
    let t ← format e
    .ok ("..." ++ t)
  | function params result => do
    let ps ← formatAll params
    let head := "function(" ++ ", ".intercalate ps ++ ")"
    match result with
    | none => .ok head
    | some r => do
      let t ← format r
      .ok (head ++ ":" ++ t)
  | field k t => .error (.field k t)
  | nullable e => .error (.nullable e)
  | nonNullable e => .error (.nonNullable e)
  | list items => .error (.list items)
  | value v => .error (.value v)
termination_by structural t => t

/-- The displayed form of each type. -/
def formatAll : List TypeExpr → Except TypeExpr (List String)
  | [] => .ok []
  | t :: ts => do
    let s ← format t
    let ss ← formatAll ts
    .ok (s :: ss)
termination_by structural ts => ts

/-- The displayed form of each field. -/
def formatFields : List (String × TypeExpr) → Except TypeExpr (List String)
  | [] => .ok []
  | f :: fs => do
    let s ← formatField f
    let ss ← formatFields fs
    .ok (s :: ss)
termination_by structural fs => fs

/-- The key and the displayed form of the type of a field. -/
def formatField : String × TypeExpr → Except TypeExpr String
  | (k, t) => do
    let s ← format t
    .ok (k ++ ":" ++ s)
termination_by structural f => f

end

/-- What is said of a type that has no displayed form. -/
def unformattableMessage (t : TypeExpr) : String :=
  "Unable to format type " ++ t.shapeName ++ ": " ++ t.describe

end TypeExpr

end DocPages

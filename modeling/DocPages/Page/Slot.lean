import DocPages.Markup.Escape
import DocPages.Value.Json

/-!
# Values in the places of a page

A template names places that data fills.  A `Slot` is what fills one: a value, or nothing at
all, with what would be said of it.  A slot that is not filled shows nothing, is false and has
no items, but it has no parts to look into.
-/

namespace DocPages.Page

/-- Why there is no page. -/
inductive PageError where
  | notFound (name : String) (directory : String)
  | outside (name : String)
  | noName (v : Value)
  | noItems (v : Value)
  | undefined (reason : String)
  | noJson (kind : String)
  | reservedKey (key : String)
  | keyNotText
  deriving Inhabited

/-- What is said if there is no page. -/
def PageError.message : PageError → String
  | notFound name directory =>
    Text.quoted name ++ " not found in search path: " ++ Text.quoted directory
  | outside name => name
  | noName (.list _) => "unhashable type: 'list'"
  | noName (.map _) => "unhashable type: 'dict'"
  | noName v => "'" ++ v.kindName ++ "' object has no attribute 'split'"
  | noItems v => "'" ++ v.kindName ++ "' object is not iterable"
  | undefined reason => reason
  | noJson kind => "Object of type " ++ kind ++ " is not JSON serializable"
  | reservedKey key => "Template.render() got multiple values for argument '" ++ key ++ "'"
  | keyNotText => "keywords must be strings"

/-- What fills a place, or what is said of a place that is not filled. -/
inductive Slot where
  | filled (v : Value)
  | empty (reason : String)
  deriving Inhabited

namespace Slot

/-- What data has under a key. -/
def ofData (data : List (Key × Value)) (key : String) : Slot :=
  match Value.lookup? key data with
  | some v => filled v
  | none => empty ("'" ++ key ++ "' is undefined")

/-- What a value has under a key. -/
def ofValue (v : Value) (key : String) : Slot :=
  match v.get? key with
  | some w => filled w
  | none => empty ("'" ++ v.kindName ++ " object' has no attribute '" ++ key ++ "'")

/-- What the value in a slot has under a key. -/
def part (s : Slot) (key : String) : Except PageError Slot :=
  match s with
  | filled v => .ok (ofValue v key)
  | empty reason => .error (.undefined reason)

/-- Is there a value that holds? -/
def holds : Slot → Bool
  | filled v => v.holds
  | empty _ => false

/-- The text of the value. -/
def raw : Slot → String
  | filled v => v.display
  | empty _ => ""

/-- The slot, or another one if it does not hold. -/
def orElse (s other : Slot) : Slot :=
  if s.holds then s else other

/-- The items of the value: of a list, the keys of a map, or the characters of a text. -/
def items : Slot → Except PageError (List Value)
  | filled (.list vs) => .ok vs
  | filled (.map es) => .ok (es.map fun e => .ofKey e.1)
  | filled (.text s) => .ok (s.toList.map fun c => .text (String.singleton c))
  | filled v => .error (.noItems v)
  | empty _ => .ok []

/-- The value as JSON inside a script. -/
def json : Slot → Except PageError String
  | filled v =>
    match v.shownKind? with
    | some kind => .error (.noJson kind)
    | none => .ok v.toScriptJson
  | empty _ => .error (.noJson "Undefined")

end Slot

end DocPages.Page

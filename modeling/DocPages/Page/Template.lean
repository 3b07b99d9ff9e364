import DocPages.Page.Layout
import DocPages.Text.Blank
import DocPages.Text.Search
import DocPages.Text.Word

/-!
# Templates

A template is the page that comes with the program, or a text in which names in double braces
stand for data.  `render` looks a template up in a directory and fills it.
-/

namespace DocPages.Page

/-- A template. -/
inductive Template where
  | bundled
  | custom (text : String)
  deriving Inhabited

/-- A directory of templates, by their paths in it. -/
structure TemplateDir where
  path : String
  template? : String → Option Template

/-- The directory of the template that comes with the program. -/
def TemplateDir.bundled (path : String) : TemplateDir :=
  ⟨path, fun name => if name = "api.html" then some .bundled else none⟩

/-- The name in double braces at the start of a text, and what follows. -/
def placeholder? (cs : List Char) : Option (String × List Char) :=
  match Text.after? ['\x7b', '\x7b'] cs with
  | none => none
  | some r =>
    let r := Text.trimLeft r
    let name := r.takeWhile Text.isWord
    match Text.after? ['\x7d', '\x7d'] (Text.trimLeft (r.drop name.length)) with
    | some rest =>
      if name.isEmpty || name.head?.any Char.isDigit then none
      else some (String.ofList name, rest)
    | none => none

/-- `fill` for a text of at most the given number of characters. -/
private def fillWithin (value : String → String) : Nat → List Char → List Char
  | 0, cs => cs
  | _ + 1, [] => []
  | fuel + 1, c :: cs =>
    match placeholder? (c :: cs) with
    | some (name, rest) => (value name).toList ++ fillWithin value fuel rest
    | none => c :: fillWithin value fuel cs

/-- The text with what stands for names in their places. -/
def fill (value : String → String) (cs : List Char) : List Char :=
  fillWithin value cs.length cs

/-- The text without a line feed at its end. -/
def dropFinalLineFeed : List Char → List Char
  | [] => []
  | c :: cs => if cs.isEmpty && c = '\n' then [] else c :: dropFinalLineFeed cs

/-- Names that stand for values in every template. -/
def constants : List (Key × Value) :=
  [("true", .bool true), ("True", .bool true), ("false", .bool false), ("False", .bool false),
    ("none", .null), ("None", .null)]

/-- A template text filled with data. -/
def fillTemplate (escape : Bool) (data : List (Key × Value)) (s : String) : String :=
  let value (name : String) : String :=
    Piece.dataMarkup escape (Slot.ofData (constants ++ data) name).raw
  String.ofList (fill value (dropFinalLineFeed (Text.unifyLineEnds s.toList)))

/-- Is what a template of this name is filled with escaped? -/
def escapes (name : String) : Bool :=
  let name := name.toLower
  name.endsWith ".html" || name.endsWith ".xml"

/-- The path of a template in its directory. -/
def templatePath (name : String) : Except PageError String :=
  let parts := (name.toList.splitOn '/').map String.ofList
  if parts.contains ".." then .error (.outside name)
  else .ok ("/".intercalate (parts.filter fun p => p != "" && p != "."))

/-- The template of a name. -/
def findTemplate (dir : TemplateDir) (name : String) : Except PageError Template := do
  match dir.template? (← templatePath name) with
  | some t => .ok t
  | none => .error (.notFound name dir.path)

/-- The one name that data may not have. -/
def reservedName : String := "self"

/-- What keeps data from being given to a template: a key that is no text, or the reserved
name. -/
def dataError? (data : List (Key × Value)) : Option PageError :=
  let isText : Key → Bool
    | .text _ => true
    | _ => false
  if data.any fun e => !isText e.1 then some .keyNotText
  else if (Value.lookup? reservedName data).isSome then some (.reservedKey reservedName)
  else none

/-- The template of a directory filled with data. -/
def render (dir : TemplateDir) (template : Value) (data : List (Key × Value)) :
    Except PageError String :=
  match template with
  | .text name => do
    let t ← findTemplate dir name
    match dataError? data with
    | some e => .error e
    | none =>
      match t with
      | .bundled => return toMarkup (escapes name) (← layout data)
      | .custom s => return fillTemplate (escapes name) data s
  | v => .error (.noName v)

end DocPages.Page

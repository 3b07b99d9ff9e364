import DocPages.Value.Basic

/-!
# Values as JSON

`Value.toJson` writes a value as JSON on one line and `Value.toIndentedJson` over several
lines.  Both write ASCII only: every other character is escaped, those beyond the basic plane
as a pair of surrogates.
-/

namespace DocPages

namespace Value

/-- The escape of one unit of sixteen bits. -/
private def unitEscape (n : Nat) : List Char :=
  '\\' :: 'u' :: Text.hexDigits 4 n

/-- A character inside a JSON string. -/
def jsonChar (c : Char) : List Char :=
  if c = '"' || c = '\\' then ['\\', c]
  else if c = '\n' then ['\\', 'n']
  else if c = '\r' then ['\\', 'r']
  else if c = '\t' then ['\\', 't']
  else if c.toNat = 8 then ['\\', 'b']
  else if c.toNat = 12 then ['\\', 'f']
  else if 0x20 ≤ c.toNat && c.toNat < 0x7F then [c]
  else if c.toNat < 0x10000 then unitEscape c.toNat
  else
    let n := c.toNat - 0x10000
    unitEscape (0xD800 + n / 0x400) ++ unitEscape (0xDC00 + n % 0x400)

/-- A text as a JSON string. -/
def jsonString (s : String) : String :=
  String.ofList ('"' :: s.toList.flatMap jsonChar ++ ['"'])

/-- A number of binary64 format as JSON writes it, with the words used for what is no finite
number. -/
def jsonFloat : Binary64 → String
  | .nan => "NaN"
  | .infinite negative => if negative then "-Infinity" else "Infinity"
  | x => x.display

/-- A key as JSON writes it. -/
def jsonKey : Key → String
  | .null => "null"
  | .bool b => if b then "true" else "false"
  | .int n => intText n
  | .float x => jsonFloat x
  | .text s => s
  | .shown s => s.text

mutual

/-- The value as JSON on one line. -/
def toJson : Value → String
  | null => "null"
  | bool b => if b then "true" else "false"
  | int n => intText n
  | float x => jsonFloat x
  | text s => jsonString s
  | shown s => jsonString s.text
  | list items => "[" ++ ", ".intercalate (jsonItems items) ++ "]"
  | map entries => "\x7b" ++ ", ".intercalate (jsonEntries entries) ++ "\x7d"
termination_by structural v => v

/-- `toJson` of each value. -/
def jsonItems : List Value → List String
  | [] => []
  | v :: vs => toJson v :: jsonItems vs
termination_by structural vs => vs

/-- Each entry as JSON. -/
def jsonEntries : List (Key × Value) → List String
  | [] => []
  | e :: es => jsonEntry e :: jsonEntries es
termination_by structural es => es

/-- One entry as JSON. -/
def jsonEntry : Key × Value → String
  | (k, v) => jsonString (jsonKey k) ++ ": " ++ toJson v
termination_by structural e => e

end

/-- A line feed and two blanks for each level. -/
private def lineBreak (level : Nat) : String :=
  String.ofList ('\n' :: List.replicate (2 * level) ' ')

mutual

/-- The value as JSON over several lines, at a level of indentation. -/
def indentedAt (level : Nat) : Value → String
  | list [] => "[]"
  | list items =>
    "[" ++ lineBreak (level + 1) ++ ("," ++ lineBreak (level + 1)).intercalate
      (indentedItems (level + 1) items) ++ lineBreak level ++ "]"
  | map [] => "\x7b\x7d"
  | map entries =>
    "\x7b" ++ lineBreak (level + 1) ++ ("," ++ lineBreak (level + 1)).intercalate
      (indentedEntries (level + 1) entries) ++ lineBreak level ++ "\x7d"
  | v => toJson v
termination_by structural v => v

/-- `indentedAt` of each value. -/
def indentedItems (level : Nat) : List Value → List String
  | [] => []
  | v :: vs => indentedAt level v :: indentedItems level vs
termination_by structural vs => vs

/-- Each entry, its value over several lines. -/
def indentedEntries (level : Nat) : List (Key × Value) → List String
  | [] => []
  | e :: es => indentedEntry level e :: indentedEntries level es
termination_by structural es => es

/-- One entry, its value over several lines. -/
def indentedEntry (level : Nat) : Key × Value → String
  | (k, v) => jsonString (jsonKey k) ++ ": " ++ indentedAt level v
termination_by structural e => e

end

/-- The value as JSON over several lines, two blanks for each level. -/
def toIndentedJson (v : Value) : String :=
  indentedAt 0 v

mutual

/-- The value with the entries of every map in the order of their keys. -/
def sortKeys : Value → Value
  | list items => list (sortItems items)
  | map entries => map ((sortEntries entries).mergeSort fun a b => !(jsonKey b.1 < jsonKey a.1))
  | v => v
termination_by structural v => v

/-- `sortKeys` of each value. -/
def sortItems : List Value → List Value
  | [] => []
  | v :: vs => sortKeys v :: sortItems vs
termination_by structural vs => vs

/-- The entries with `sortKeys` of each value. -/
def sortEntries : List (Key × Value) → List (Key × Value)
  | [] => []
  | e :: es => sortEntry e :: sortEntries es
termination_by structural es => es

/-- The entry with `sortKeys` of its value. -/
def sortEntry : Key × Value → Key × Value
  | (k, v) => (k, sortKeys v)
termination_by structural e => e

end

/-- A character of JSON that stands inside a script element. -/
private def scriptChar (c : Char) : List Char :=
  if c = '<' || c = '>' || c = '&' || c = '\'' then unitEscape c.toNat else [c]

/-- The value as JSON that may stand inside a script element: keys sorted, and the characters
that mean something in markup escaped. -/
def toScriptJson (v : Value) : String :=
  String.ofList ((toJson (sortKeys v)).toList.flatMap scriptChar)

end Value

end DocPages

import DocPages.Value.Key

/-!
# Values

`Value` is the type of data whose shape is not known in advance: what a settings file holds,
and what a page template is given.  A map keeps its entries in the order in which their keys
first came.  `Value.display` is a value's text; inside lists and maps texts stand in quotes.
-/

namespace DocPages

/-- A value: nothing, a truth value, a number, a text, a value that is only shown, a list or a
map. -/
inductive Value where
  | null
  | bool (b : Bool)
  | int (n : Int)
  | float (x : Binary64)
  | text (s : String)
  | shown (s : Shown)
  | list (items : List Value)
  | map (entries : List (Key × Value))
  deriving Inhabited

namespace Value

/-- The value of a text in the entries of a map. -/
def lookup? (key : String) : List (Key × Value) → Option Value
  | [] => none
  | (k, v) :: rest => if k = .text key then some v else lookup? key rest

/-- The value of a key in a map. -/
def get? (v : Value) (key : String) : Option Value :=
  match v with
  | map entries => lookup? key entries
  | _ => none

/-- The entries with the value of `key` set: in its place if it is there, else at the end. -/
def setEntry (key : Key) (v : Value) : List (Key × Value) → List (Key × Value)
  | [] => [(key, v)]
  | (k, w) :: rest => if k.same key then (k, v) :: rest else (k, w) :: setEntry key v rest

/-- The entries with those of `more` set on top, in order. -/
def setEntries (entries more : List (Key × Value)) : List (Key × Value) :=
  more.foldl (fun acc e => setEntry e.1 e.2 acc) entries

/-- The value that a key is. -/
def ofKey : Key → Value
  | .null => null
  | .bool b => bool b
  | .int n => int n
  | .float x => float x
  | .text s => text s
  | .shown s => shown s

/-- All values hold except nothing, false, zero and what is empty. -/
def holds : Value → Bool
  | null => false
  | bool b => b
  | int n => n != 0
  | float x => !x.isZero
  | text s => s != ""
  | shown s => s.holds
  | list items => !items.isEmpty
  | map entries => !entries.isEmpty

/-- The name of a value's kind in messages. -/
def kindName : Value → String
  | null => "NoneType"
  | bool _ => "bool"
  | int _ => "int"
  | float _ => "float"
  | text _ => "str"
  | shown s => s.kind
  | list _ => "list"
  | map _ => "dict"

mutual

/-- A value as it stands inside a list or a map: texts in quotes. -/
def quotedText : Value → String
  | null => "None"
  | bool b => boolText b
  | int n => intText n
  | float x => x.display
  | text s => Text.quoted s
  | shown s => s.quoted
  | list items => "[" ++ ", ".intercalate (quotedTexts items) ++ "]"
  | map entries => "\x7b" ++ ", ".intercalate (quotedEntries entries) ++ "\x7d"
termination_by structural v => v

/-- `quotedText` of each value. -/
def quotedTexts : List Value → List String
  | [] => []
  | v :: vs => quotedText v :: quotedTexts vs
termination_by structural vs => vs

/-- The key and `quotedText` of the value, of each entry. -/
def quotedEntries : List (Key × Value) → List String
  | [] => []
  | e :: es => quotedEntry e :: quotedEntries es
termination_by structural es => es

/-- The key and `quotedText` of the value. -/
def quotedEntry : Key × Value → String
  | (k, v) => k.quotedText ++ ": " ++ quotedText v
termination_by structural e => e

end

/-- The text of a value: a text itself, the text of what is only shown, and `quotedText` of any
other value. -/
def display : Value → String
  | text s => s
  | shown s => s.text
  | v => quotedText v

mutual

/-- The kind of the first value in a value that is only shown, if there is one. -/
def shownKind? : Value → Option String
  | shown s => some s.kind
  | list items => firstShownKind? items
  | map entries => entriesShownKind? entries
  | _ => none
termination_by structural v => v

/-- `shownKind?` of the first value that has one. -/
def firstShownKind? : List Value → Option String
  | [] => none
  | v :: vs => (shownKind? v).or (firstShownKind? vs)
termination_by structural vs => vs

/-- `shownKind?` of the first entry whose value has one. -/
def entriesShownKind? : List (Key × Value) → Option String
  | [] => none
  | e :: es => (entryShownKind? e).or (entriesShownKind? es)
termination_by structural es => es

/-- `shownKind?` of the value of an entry. -/
def entryShownKind? : Key × Value → Option String
  | (_, v) => shownKind? v
termination_by structural e => e

end

/-! ### Leaving out what is nothing -/

mutual

/-- The value without the map entries whose value is nothing, at any depth. -/
def withoutNulls : Value → Value
  | list items => list (itemsWithoutNulls items)
  | map entries => map (entriesWithoutNulls entries)
  | v => v
termination_by structural v => v

/-- `withoutNulls` of each value. -/
def itemsWithoutNulls : List Value → List Value
  | [] => []
  | v :: vs => withoutNulls v :: itemsWithoutNulls vs
termination_by structural vs => vs

/-- The entries whose value is something, with `withoutNulls` of it. -/
def entriesWithoutNulls : List (Key × Value) → List (Key × Value)
  | [] => []
  | e :: es =>
    match entryWithoutNulls e with
    | some e' => e' :: entriesWithoutNulls es
    | none => entriesWithoutNulls es
termination_by structural es => es

/-- The entry with `withoutNulls` of its value, unless the value is nothing. -/
def entryWithoutNulls : Key × Value → Option (Key × Value)
  | (_, null) => none
  | (k, v) => some (k, withoutNulls v)
termination_by structural e => e

end

end Value

end DocPages

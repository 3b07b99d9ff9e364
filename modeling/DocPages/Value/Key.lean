import DocPages.Text.Quoted
import DocPages.Value.Binary64

/-!
# Keys of maps

A key is a text in most maps, but it may also be nothing, a truth value, a number or a value
that is only shown.  Numbers and truth values of the same size are the same key.
-/

namespace DocPages

/-- An integer in decimal. -/
def intText (n : Int) : String :=
  let digits := Nat.toDigits 10 n.natAbs
  String.ofList (if n < 0 then '-' :: digits else digits)

/-- The word for a truth value. -/
def boolText (b : Bool) : String := if b then "True" else "False"

/-- A value that is only ever shown, such as a date: the name of its kind, its text, its text
inside lists and maps, and whether it holds as a condition. -/
structure Shown where
  kind : String
  text : String
  quoted : String
  holds : Bool := true
  deriving DecidableEq, Inhabited

/-- A key of a map. -/
inductive Key where
  | null
  | bool (b : Bool)
  | int (n : Int)
  | float (x : Binary64)
  | text (s : String)
  | shown (s : Shown)
  deriving DecidableEq, Inhabited

instance : Coe String Key := ⟨Key.text⟩

namespace Key

/-- The number that a key is, if it is one. -/
def number? : Key → Option Binary64.Exact
  | bool b => some (.ofInt (if b then 1 else 0))
  | int n => some (.ofInt n)
  | float x => x.dyadic?
  | _ => none

/-- Do two keys have the same place in a map? -/
def same (a b : Key) : Bool :=
  match number? a, number? b with
  | some x, some y => x == y
  | _, _ => a == b

/-- A key as a map shows it. -/
def quotedText : Key → String
  | null => "None"
  | bool b => boolText b
  | int n => intText n
  | float x => x.display
  | text s => Text.quoted s
  | shown s => s.quoted

end Key

end DocPages

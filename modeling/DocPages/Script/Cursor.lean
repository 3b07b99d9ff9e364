import DocPages.Concrete.Basic
import DocPages.Text.Search

/-!
# Reading a script

A `Cursor` is a place in a script: what is left of it, the row and the byte of the place, and
the comments passed on the way.  `Read` is the type of readers, which start at a cursor and
either fail or give a result and the cursor after it; `<|>` tries a second reader where a first
one has failed.  Blanks and comments may stand before any token.
-/

namespace DocPages

namespace Script

/-- White space of scripts, the marks that show nothing included. -/
def isSpace (c : Char) : Bool :=
  let n := c.toNat
  (9 ≤ n && n ≤ 13) || n == 0x20 || n == 0xA0 || n == 0x1680 || (0x2000 ≤ n && n ≤ 0x200B)
    || n == 0x2028 || n == 0x2029 || n == 0x202F || n == 0x205F || n == 0x2060 || n == 0x3000
    || n == 0xFEFF

/-- Characters that end a line. -/
def isLineEnd (c : Char) : Bool :=
  c == '\n' || c.toNat == 0x2028 || c.toNat == 0x2029

/-- A row and a byte of a script. -/
structure Mark where
  row : Nat
  byte : Nat
  deriving DecidableEq, Inhabited

/-- A place in a script, with the comments before it, the last one first. -/
structure Cursor where
  rest : List Char
  mark : Mark := ⟨0, 0⟩
  comments : List Concrete := []
  deriving Inhabited

/-- A phrase between two places. -/
def phrase (kind : String) (start stop : Mark) (children : List Concrete) : Concrete :=
  .node
    { kind, rows := ⟨start.row, stop.row⟩, bytes := (start.byte, stop.byte) }
    children

/-- A phrase that fills a field of its parent. -/
def inField (field : String) : Concrete → Concrete
  | .node l cs => .node { l with field := some field } cs

/-- Where a phrase starts. -/
def startOf (c : Concrete) : Mark :=
  ⟨c.label.rows.first.toNat, c.label.bytes.1⟩

/-- Where a phrase ends. -/
def stopOf (c : Concrete) : Mark :=
  ⟨c.label.rows.last.toNat, c.label.bytes.2⟩

/-- The place after a character. -/
def Mark.after (m : Mark) (c : Char) : Mark :=
  ⟨if c = '\n' then m.row + 1 else m.row, m.byte + c.utf8Size⟩

namespace Cursor

/-- The cursor after the given number of characters. -/
def advance (c : Cursor) : Nat → Cursor
  | 0 => c
  | n + 1 =>
    match c.rest with
    | [] => c
    | x :: r => advance { c with rest := r, mark := c.mark.after x } n

/-- The number of characters of the comment at the start of a text. -/
def commentLength? (cs : List Char) : Option Nat :=
  match cs with
  | '/' :: '/' :: r =>
    some (2 + (r.takeWhile fun c => !(isLineEnd c || c == '\r')).length)
  | '/' :: '*' :: r => (Text.splitFirst? ['*', '/'] r).map fun (inner, _) => inner.length + 4
  | _ => none

/-- The cursor after blanks. -/
def skipSpace (c : Cursor) : Cursor :=
  c.advance (c.rest.takeWhile isSpace).length

/-- The cursor after the comment at it, which is added to the comments. -/
def skipComment? (c : Cursor) : Option Cursor :=
  (commentLength? c.rest).map fun n =>
    let c' := c.advance n
    { c' with comments := phrase Concrete.commentKind c.mark c'.mark [] :: c.comments }

/-- The cursor after comments and the blanks around them, at most one comment for each
character of a text. -/
def skipWithin : List Char → Cursor → Cursor
  | [], c => c
  | _ :: fuel, c =>
    let c := c.skipSpace
    match c.skipComment? with
    | some c => skipWithin fuel c
    | none => c

/-- The cursor after blanks and comments. -/
def skip (c : Cursor) : Cursor :=
  skipWithin c.rest c

end Cursor

/-- Readers of scripts. -/
abbrev Read (α : Type) := StateT Cursor Option α

/-- The place of the next token. -/
def here : Read Mark := do
  modify Cursor.skip
  return (← get).mark

/-- The place right after the last token. -/
def mark : Read Mark := return (← get).mark

/-- The next token with what follows it, not read. -/
def ahead : Read (List Char) := return (← get).skip.rest

/-- Does the next token start with the sign? -/
def aheadIs (sign : String) : Read Bool :=
  return (Text.after? sign.toList (← ahead)).isSome

/-- Go past `n` characters. -/
def pass (n : Nat) : Read Unit := modify fun c => c.advance n

/-- Fails unless the condition holds. -/
def ensure (b : Bool) : Read Unit :=
  if b then pure () else failure

/-- Read a mark of punctuation. -/
def token (s : String) : Read Unit := do
  modify Cursor.skip
  match Text.after? s.toList (← get).rest with
  | some _ => pass s.length
  | none => failure

/-- Read a phrase if there is one. -/
def perhaps {α : Type} (p : Read α) : Read (Option α) :=
  (some <$> p) <|> pure none

/-- Does the reader succeed here?  Nothing is read. -/
def follows {α : Type} (p : Read α) : Read Bool := fun c =>
  some ((p c).isSome, c)

/-- `many`, with at most one phrase for each character of a text. -/
private def manyWithin {α : Type} (p : Read α) : List Char → Cursor → List α × Cursor
  | [], c => ([], c)
  | _ :: fuel, c =>
    match p c with
    | none => ([], c)
    | some (a, c) =>
      let (rest, c) := manyWithin p fuel c
      (a :: rest, c)

/-- The phrase that there is, if there is one. -/
def given {α : Type} : Option α → Read α
  | some a => return a
  | none => failure

/-- Read phrases as long as there are any.  Each takes at least one of the characters left. -/
def many {α : Type} (p : Read α) : Read (List α) := fun c =>
  some (manyWithin p c.rest c)

/-- Read phrases separated by commas, at least one. -/
def commaList {α : Type} (p : Read α) : Read (List α) := do
  let first ← p
  let rest ← many (token "," *> p)
  return first :: rest

/-- Read phrases separated by commas, any of which may be left out. -/
def slots {α : Type} (p : Read α) : Read (List (Option α)) := do
  let first ← perhaps p
  let rest ← many (token "," *> perhaps p)
  return first :: rest

/-- Read phrases separated by commas, any of which may be left out, and pass over the gaps. -/
def looseList {α : Type} (p : Read α) : Read (List α) :=
  (List.filterMap id) <$> slots p

/-- A phrase of a kind whose children a reader gives. -/
def node (kind : String) (children : Read (List Concrete)) : Read Concrete := do
  let start ← here
  let cs ← children
  return phrase kind start (← mark) cs

end Script

end DocPages

/-!
# Places in a document

A `Cursor` is a place in the text of a document: what is left of the text, and the number of
characters, lines and columns before the place.  Past the end of the text stands a null
character, which no document holds.
-/

namespace DocPages

namespace Yaml

/-- What stands past the end of a text. -/
def pastEnd : Char := '\x00'

/-- A character that ends a line. -/
def isBreak (c : Char) : Bool :=
  c == '\n' || c.toNat == 0x85 || c.toNat == 0x2028 || c.toNat == 0x2029

/-- The end of a line or of the text. -/
def isLineEnd (c : Char) : Bool := c == pastEnd || isBreak c

/-- A blank, or the end of a line or of the text. -/
def isSpaceOrEnd (c : Char) : Bool := c == ' ' || isLineEnd c

/-- A blank, a tab, or the end of a line or of the text. -/
def isGap (c : Char) : Bool := c == '\t' || isSpaceOrEnd c

/-- A character that a document may hold. -/
def isPrintable (c : Char) : Bool :=
  let n := c.toNat
  n == 9 || n == 10 || n == 13 || (0x20 ≤ n && n ≤ 0x7E) || n == 0x85
    || (0xA0 ≤ n && n ≤ 0xFFFD) || 0x10000 ≤ n

/-- A place in a text. -/
structure Cursor where
  rest : List Char
  index : Nat := 0
  line : Nat := 0
  column : Nat := 0
  deriving Inhabited

namespace Cursor

/-- The character at a place. -/
def peek (c : Cursor) : Char := c.rest.headD pastEnd

/-- The character some places on. -/
def peekAt (c : Cursor) (k : Nat) : Char := (c.rest.drop k).headD pastEnd

/-- The place after the next character. -/
def next (c : Cursor) : Cursor :=
  match c.rest with
  | [] => c
  | d :: r =>
    if isBreak d then { rest := r, index := c.index + 1, line := c.line + 1, column := 0 }
    else
      { rest := r, index := c.index + 1, line := c.line
        column := if d.toNat == 0xFEFF then c.column else c.column + 1 }

/-- The place after the next `n` characters. -/
def skip : Nat → Cursor → Cursor
  | 0, c => c
  | n + 1, c => skip n c.next

/-- The characters from here on that satisfy `p`, and the place after them. -/
def takeWhile (p : Char → Bool) (c : Cursor) : List Char × Cursor :=
  let cs := c.rest.takeWhile p
  (cs, c.skip cs.length)

/-- The place after the characters from here on that satisfy `p`. -/
def skipWhile (p : Char → Bool) (c : Cursor) : Cursor := (c.takeWhile p).2

/-- The end of a line, as it counts inside a scalar, and the place after it. -/
def lineBreak (c : Cursor) : List Char × Cursor :=
  match c.rest with
  | [] => ([], c)
  | d :: _ =>
    if !isBreak d then ([], c)
    else (if d == '\n' || d.toNat == 0x85 then ['\n'] else [d], c.next)

/-- Do the lines of a document end or begin here? -/
def atSeparator (c : Cursor) : Bool :=
  let marks := c.rest.take 3
  (marks == ['-', '-', '-'] || marks == ['.', '.', '.']) && isGap (c.peekAt 3)

end Cursor

end Yaml

end DocPages

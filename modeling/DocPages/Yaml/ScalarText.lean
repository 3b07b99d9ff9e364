import DocPages.Text.Hex
import DocPages.Yaml.Cursor

/-!
# The text of scalars

A scalar is written plainly, in single or double quotes, or as a block of lines after a header.
Each reader here starts at a place and gives the text of the scalar and the place after it, or
nothing if the scalar is malformed.  A line end inside a scalar counts as a blank and each
empty line after it as a line feed; only the lines of a literal block stay as they are.
-/

namespace DocPages

namespace Yaml

/-! ### Plain scalars -/

/-- Brackets, braces and commas. -/
def isFlowMark (c : Char) : Bool := ",[]\x7b\x7d".toList.contains c

/-- The number of characters up to a blank or to what ends a plain scalar. -/
def plainLength (inFlow : Bool) : List Char → Nat
  | [] => 0
  | c :: cs =>
    let after := cs.headD pastEnd
    if isGap c || (c == ':' && (isGap after || (inFlow && isFlowMark after)))
        || (inFlow && (isFlowMark c || c == '?')) then 0
    else plainLength inFlow cs + 1

/-- The line ends and blanks from here on, the blanks left out, and the place after them; nothing
if a separator of documents comes first. -/
private def breaksBeforeText : Nat → Cursor → Option (List Char) × Cursor
  | 0, c => (some [], c)
  | fuel + 1, c =>
    if c.peek == ' ' then breaksBeforeText fuel c.next
    else if isBreak c.peek then
      let (b, c) := c.lineBreak
      if c.atSeparator then (none, c)
      else
        let (bs, c) := breaksBeforeText fuel c
        (bs.map (b ++ ·), c)
    else (some [], c)

/-- What stands for a line end followed by empty lines. -/
def foldedBreak (first more : List Char) : List Char :=
  (if first != ['\n'] then first else if more.isEmpty then [' '] else []) ++ more

/-- What stands between two parts of a plain scalar, the place of the second part, and whether a
line end is between them. -/
private def plainSpace (c : Cursor) : List Char × Cursor × Bool :=
  let (blanks, c) := c.takeWhile (· == ' ')
  if isBreak c.peek then
    let (b, c) := c.lineBreak
    if c.atSeparator then ([], c, true)
    else
      match breaksBeforeText c.rest.length c with
      | (some bs, c) => (foldedBreak b bs, c, true)
      | (none, c) => ([], c, true)
  else (blanks, c, false)

/-- The parts of a plain scalar after the space `space`. -/
private def plainWithin (inFlow : Bool) (indent : Int) :
    Nat → List Char → Bool → Cursor → List Char × Cursor × Bool
  | 0, _, broken, c => ([], c, broken)
  | fuel + 1, space, broken, c =>
    let n := plainLength inFlow c.rest
    if c.peek == '#' || n == 0 then ([], c, broken)
    else
      let part := space ++ c.rest.take n
      let (more, c, broken) := plainSpace (c.skip n)
      if more.isEmpty || c.peek == '#' || (!inFlow && (c.column : Int) < indent) then
        (part, c, broken)
      else
        let (t, c, broken) := plainWithin inFlow indent fuel more broken c
        (part ++ t, c, broken)

/-- The text of a plain scalar whose lines are set in by `indent`, the place after it, and whether
a line end comes before that place. -/
def plainText (inFlow : Bool) (indent : Int) (c : Cursor) : List Char × Cursor × Bool :=
  plainWithin inFlow indent c.rest.length [] false c

/-! ### Scalars in quotes -/

/-- Characters that a backslash and another character stand for. -/
def escapes : List (Char × Char) :=
  [('0', '\x00'), ('a', '\x07'), ('b', '\x08'), ('t', '\t'), ('\t', '\t'), ('n', '\n'),
    ('v', '\x0b'), ('f', '\x0c'), ('r', '\r'), ('e', '\x1b'), (' ', ' '), ('"', '"'),
    ('\\', '\\'), ('/', '/'), ('N', '\x85'), ('_', '\xa0'), ('L', '\u2028'), ('P', '\u2029')]

/-- The number of hexadecimal digits after a backslash and a letter. -/
def escapeWidths : List (Char × Nat) := [('x', 2), ('u', 4), ('U', 8)]

/-- The number that hexadecimal digits write. -/
def hexNumber (cs : List Char) : Nat :=
  cs.foldl (fun n c => 16 * n + (Text.hexValue? c).getD 0) 0

/-- The line ends from here on without the blanks around them; nothing if a separator of
documents is among them. -/
private def quotedBreaks? : Nat → Cursor → Option (List Char × Cursor)
  | 0, c => some ([], c)
  | fuel + 1, c =>
    if c.atSeparator then none
    else
      let c := c.skipWhile fun d => d == ' ' || d == '\t'
      if isBreak c.peek then do
        let (b, c) := c.lineBreak
        let (bs, c) ← quotedBreaks? fuel c
        some (b ++ bs, c)
      else some ([], c)

/-- The character that the escape after a backslash stands for, and the place after it. -/
def escape? (c : Cursor) : Option (Char × Cursor) :=
  match escapes.lookup c.peek, escapeWidths.lookup c.peek with
  | some d, _ => some (d, c.next)
  | none, some n =>
    let digits := c.next.rest.take n
    let code := hexNumber digits
    if digits.length == n && digits.all (fun d => (Text.hexValue? d).isSome) && code ≤ 0x10FFFF then
      some (Char.ofNat code, c.next.skip n)
    else none
  | none, none => none

/-- The text up to the closing quote, and the place after the quote. -/
private def quotedWithin? (quote : Char) : Nat → Cursor → Option (List Char × Cursor)
  | 0, _ => none
  | fuel + 1, c =>
    let go (new : List Char) (c : Cursor) : Option (List Char × Cursor) :=
      (quotedWithin? quote fuel c).map fun (t, e) => (new ++ t, e)
    match c.rest with
    | [] => none
    | d :: r =>
      if d == quote then
        if quote == '\'' && r.head? == some '\'' then go ['\''] (c.skip 2) else some ([], c.next)
      else if d == '\\' && quote == '"' then
        let c := c.next
        if isBreak c.peek then do
          let (bs, c) ← quotedBreaks? c.rest.length c.lineBreak.2
          go bs c
        else do
          let (e, c) ← escape? c
          go [e] c
      else if d == ' ' || d == '\t' || isBreak d then
        let (blanks, c) := c.takeWhile fun d => d == ' ' || d == '\t'
        if isBreak c.peek then do
          let (b, c) := c.lineBreak
          let (bs, c) ← quotedBreaks? c.rest.length c
          go (foldedBreak b bs) c
        else go blanks c
      else go [d] c.next

/-- The text in quotes of which the first is here, and the place after them. -/
def quotedText? (c : Cursor) : Option (List Char × Cursor) :=
  quotedWithin? c.peek (c.rest.length + 1) c.next

/-! ### Blocks -/

/-- What becomes of the line ends at the end of a block. -/
inductive Chomping where
  | strip
  | clip
  | keep
  deriving DecidableEq

/-- The sign of what becomes of the line ends, and the place after it. -/
private def chomping? (c : Cursor) : Option (Chomping × Cursor) :=
  if c.peek == '+' then some (.keep, c.next)
  else if c.peek == '-' then some (.strip, c.next)
  else none

/-- The digit by which a block is set in, and the place after it. -/
private def increment? (c : Cursor) : Option (Nat × Cursor) :=
  if c.peek.isDigit then some (c.peek.toNat - '0'.toNat, c.next) else none

/-- What the header of a block says, and the place after it. -/
def blockHeader? (c : Cursor) : Option (Chomping × Option Nat × Cursor) :=
  let (chomping, increment, c) : Chomping × Option Nat × Cursor :=
    match chomping? c with
    | some (ch, c) =>
      match increment? c with
      | some (n, c) => (ch, some n, c)
      | none => (ch, none, c)
    | none =>
      match increment? c with
      | some (n, c) =>
        match chomping? c with
        | some (ch, c) => (ch, some n, c)
        | none => (.clip, some n, c)
      | none => (.clip, none, c)
  if increment == some 0 || !isSpaceOrEnd c.peek then none else some (chomping, increment, c)

/-- The place after the rest of a line that holds nothing but a comment. -/
def endOfLine? (c : Cursor) : Option Cursor :=
  let c := c.skipWhile (· == ' ')
  let c := if c.peek == '#' then c.skipWhile (fun d => !isLineEnd d) else c
  if isLineEnd c.peek then some c.lineBreak.2 else none

/-- The line ends before the first line of a block, the column farthest right among the blanks
between them, and the place after them. -/
private def leadingBreaks : Nat → Nat → Cursor → List Char × Nat × Cursor
  | 0, widest, c => ([], widest, c)
  | fuel + 1, widest, c =>
    if c.peek == ' ' then leadingBreaks fuel (max widest c.next.column) c.next
    else if isBreak c.peek then
      let (b, c) := c.lineBreak
      let (bs, widest, c) := leadingBreaks fuel widest c
      (b ++ bs, widest, c)
    else ([], widest, c)

/-- The place after the blanks from here on, at most up to a column. -/
private def skipIndent (indent : Nat) (c : Cursor) : Cursor :=
  c.skip (min (indent - c.column) (c.rest.takeWhile (· == ' ')).length)

/-- The line ends between the lines of a block that are set in by `indent`, and the place of the
next line. -/
private def blockBreaks (indent : Nat) : Nat → Cursor → List Char × Cursor
  | 0, c => ([], c)
  | fuel + 1, c =>
    let c := skipIndent indent c
    if isBreak c.peek then
      let (b, c) := c.lineBreak
      let (bs, c) := blockBreaks indent fuel c
      (b ++ bs, c)
    else ([], c)

/-- The lines of a block from here on; `breaks` are the line ends before them. -/
private def blockLines (folded : Bool) (chomping : Chomping) (indent : Nat) :
    Nat → List Char → Cursor → List Char × Cursor
  | 0, _, c => ([], c)
  | fuel + 1, breaks, c =>
    let isSpace (d : Char) : Bool := d == ' ' || d == '\t'
    let leads := !isSpace c.peek
    let (line, c) := c.takeWhile (!isBreak ·)
    let (b, c) := c.lineBreak
    let (bs, c) := blockBreaks indent c.rest.length c
    if c.column == indent && c.peek != pastEnd then
      let joined :=
        if folded && b == ['\n'] && leads && !isSpace c.peek then
          if bs.isEmpty then [' '] else []
        else b
      let (t, c) := blockLines folded chomping indent fuel bs c
      (breaks ++ line ++ joined ++ t, c)
    else
      let tail := match chomping with
        | .strip => []
        | .clip => b
        | .keep => b ++ bs
      (breaks ++ line ++ tail, c)

/-- The text of a block whose header is here, and the place after it.  The node that the block is
in is set in by `indent`. -/
def blockText? (folded : Bool) (indent : Int) (c : Cursor) : Option (List Char × Cursor) := do
  let (chomping, increment, c) ← blockHeader? c
  let c ← endOfLine? c
  let least := max 1 (indent + 1).toNat
  let (breaks, column, c) := match increment with
    | none =>
      let (bs, widest, c) := leadingBreaks c.rest.length 0 c
      (bs, max least widest, c)
    | some n =>
      let column := least + n - 1
      let (bs, c) := blockBreaks column c.rest.length c
      (bs, column, c)
  if c.column == column && c.peek != pastEnd then
    some (blockLines folded chomping column (c.rest.length + 1) breaks c)
  else some (if chomping == .keep then breaks else [], c)

end Yaml

end DocPages

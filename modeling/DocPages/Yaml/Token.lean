import DocPages.Text.Decode
import DocPages.Yaml.ScalarText

/-!
# Tokens of a document

`tokens?` cuts the text of a document into tokens.  How far a line is set in opens and closes
collections, and a colon makes a key of what stands before it on its line: the marks of the key
then come before tokens that have been cut already.  The scan keeps the tokens in the order of
the text and notes where such marks belong; `withKeyMarks` puts them in.
-/

namespace DocPages

namespace Yaml

/-- A line that starts with a percent sign: it gives a version, a handle for tags, or nothing that
counts. -/
inductive Directive where
  | version (major : Nat)
  | handle (name expansion : String)
  | other
  deriving DecidableEq

/-- A token of a document. -/
inductive Token where
  | directive (d : Directive)
  | documentStart
  | documentEnd
  | blockSequenceStart
  | blockMappingStart
  | blockEnd
  | flowSequenceStart
  | flowSequenceEnd
  | flowMappingStart
  | flowMappingEnd
  | blockEntry
  | flowEntry
  | key
  | value
  | alias (name : String)
  | anchor (name : String)
  | tag (handle : Option String) (suffix : String)
  | scalar (text : String) (plain : Bool)
  deriving DecidableEq

/-- Where a key may have started: the number of the token there, the place, and whether there must
be a key. -/
structure PossibleKey where
  token : Nat
  required : Bool
  index : Nat
  line : Nat
  column : Nat

/-- Marks that belong before a token: that of a key, and perhaps that of a map. -/
structure KeyMark where
  token : Nat
  opensMap : Bool

/-- The state of the scan: the place, the number of brackets that are open, how far the open
collections are set in, whether a key may start here, where keys may have started for each
number of open brackets, the tokens so far, and the marks of their keys. -/
structure Scan where
  place : Cursor
  depth : Nat := 0
  indent : Int := -1
  indents : List Int := []
  keyAllowed : Bool := true
  possible : List (Nat × PossibleKey) := []
  tokens : Array Token := #[]
  marks : List KeyMark := []

namespace Scan

/-- The scan with one more token. -/
def push (s : Scan) (t : Token) : Scan := { s with tokens := s.tokens.push t }

/-- The scan after blanks, comments and line ends. -/
private def toNextToken : Nat → Scan → Scan
  | 0, s => s
  | fuel + 1, s =>
    let c := s.place.skipWhile (· == ' ')
    let c := if c.peek == '#' then c.skipWhile (fun d => !isLineEnd d) else c
    if isBreak c.peek then
      toNextToken fuel
        { s with place := c.lineBreak.2, keyAllowed := s.keyAllowed || s.depth == 0 }
    else { s with place := c }

/-- The scan without the places where a key can no longer have started; nothing if one of them had
to be a key. -/
private def dropStale? (s : Scan) : Option Scan :=
  let stale (k : PossibleKey) : Bool := k.line != s.place.line || s.place.index - k.index > 1024
  if s.possible.any fun (_, k) => stale k && k.required then none
  else some { s with possible := s.possible.filter fun (_, k) => !stale k }

/-- The scan after the ends of the collections that are set in farther than a column. -/
private def unwind (column : Int) (s : Scan) : Scan :=
  if s.depth != 0 then s
  else
    let rec go : List Int → Scan → Scan
      | [], s => s
      | outer :: rest, s =>
        if column < s.indent then
          go rest ({ s with indent := outer, indents := rest }.push .blockEnd)
        else s
    go s.indents s

/-- The scan with a collection at a column, if it is set in farther than those that are open, and
whether it is. -/
private def openAt (column : Nat) (s : Scan) : Scan × Bool :=
  if s.indent < column then ({ s with indent := column, indents := s.indent :: s.indents }, true)
  else (s, false)

/-- The scan in which no key has started; nothing if there had to be one. -/
private def dropPossible? (s : Scan) : Option Scan :=
  match s.possible.lookup s.depth with
  | some k =>
    if k.required then none
    else some { s with possible := s.possible.filter fun p => p.1 != s.depth }
  | none => some s

/-- The scan in which a key may start here. -/
private def notePossible? (s : Scan) : Option Scan :=
  if s.keyAllowed then do
    let t ← dropPossible? s
    let key : PossibleKey :=
      { token := s.tokens.size
        required := s.depth == 0 && s.indent == s.place.column
        index := s.place.index
        line := s.place.line
        column := s.place.column }
    some { t with possible := (s.depth, key) :: t.possible }
  else some s

/-- The scan after `n` characters that make up a token. -/
private def take (n : Nat) (t : Token) (s : Scan) : Scan :=
  { s.push t with place := s.place.skip n }

/-! ### Marks -/

/-- The scan after a mark between documents. -/
private def separator? (t : Token) (s : Scan) : Option Scan :=
  (dropPossible? (unwind (-1) s)).map fun s => take 3 t { s with keyAllowed := false }

/-- The scan after a bracket or brace that opens. -/
private def openFlow? (t : Token) (s : Scan) : Option Scan :=
  (notePossible? s).map fun s => take 1 t { s with depth := s.depth + 1, keyAllowed := true }

/-- The scan after a bracket or brace that closes. -/
private def closeFlow? (t : Token) (s : Scan) : Option Scan :=
  if s.depth == 0 then none
  else
    (dropPossible? s).map fun s => take 1 t { s with depth := s.depth - 1, keyAllowed := false }

/-- The scan after a comma. -/
private def comma? (s : Scan) : Option Scan :=
  (dropPossible? s).map fun s => take 1 .flowEntry { s with keyAllowed := true }

/-- The scan with a collection open at the place, its start being the given token; inside brackets
none opens, and elsewhere one may only open where a key may start. -/
private def openBlock? (start : Token) (s : Scan) : Option Scan :=
  if s.depth != 0 then some s
  else if !s.keyAllowed then none
  else
    let (s, opened) := s.openAt s.place.column
    some (if opened then s.push start else s)

/-- The scan after a hyphen that starts an item. -/
private def item? (s : Scan) : Option Scan := do
  let s ← openBlock? .blockSequenceStart s
  let s ← dropPossible? s
  some (take 1 .blockEntry { s with keyAllowed := true })

/-- The scan after a question mark that starts a key. -/
private def question? (s : Scan) : Option Scan := do
  let s ← openBlock? .blockMappingStart s
  let s ← dropPossible? s
  some (take 1 .key { s with keyAllowed := s.depth == 0 })

/-- The scan after a colon that starts a value. -/
private def colon? (s : Scan) : Option Scan :=
  match s.possible.lookup s.depth with
  | some k =>
    let s := { s with possible := s.possible.filter fun p => p.1 != s.depth }
    let (s, opened) := if s.depth == 0 then s.openAt k.column else (s, false)
    some (take 1 .value { s with keyAllowed := false, marks := ⟨k.token, opened⟩ :: s.marks })
  | none => do
    let s ← openBlock? .blockMappingStart s
    let s ← dropPossible? s
    some (take 1 .value { s with keyAllowed := s.depth == 0 })

/-! ### Names -/

/-- A character of a name. -/
def isNameChar (c : Char) : Bool := c.isAlphanum || c == '-' || c == '_'

/-- The scan after an anchor or an alias. -/
private def name? (make : String → Token) (s : Scan) : Option Scan := do
  let s ← notePossible? s
  let (name, c) := s.place.next.takeWhile isNameChar
  if name.isEmpty || !(isGap c.peek || "?:,]\x7d%@`".toList.contains c.peek) then none
  else some { s.push (make (String.ofList name)) with place := c, keyAllowed := false }

/-- A character of what a tag is made of. -/
def isTagChar (c : Char) : Bool :=
  c.isAlphanum || "-;/?:@&=+$,_.!~*'()[]%".toList.contains c

/-- The octets that percent signs and digits write from here on. -/
private def tagOctets? : Nat → Cursor → Option (List UInt8 × Cursor)
  | 0, c => some ([], c)
  | fuel + 1, c =>
    if c.peek != '%' then some ([], c)
    else do
      let a ← Text.hexValue? (c.peekAt 1)
      let b ← Text.hexValue? (c.peekAt 2)
      let (os, c) ← tagOctets? fuel (c.skip 3)
      some ((16 * a + b).toUInt8 :: os, c)

/-- What a tag is made of from here on. -/
private def tagText? : Nat → Cursor → Option (List Char × Cursor)
  | 0, c => some ([], c)
  | fuel + 1, c =>
    if c.peek == '%' then do
      let (os, c) ← tagOctets? fuel c
      let t ← (Text.decode os).toOption
      let (cs, c) ← tagText? fuel c
      some (t.toList ++ cs, c)
    else if isTagChar c.peek then do
      let (cs, e) ← tagText? fuel c.next
      some (c.peek :: cs, e)
    else some ([], c)

/-- The text of a tag from here on, which is not empty, and the place after it. -/
private def tagSuffix? (c : Cursor) : Option (String × Cursor) := do
  let (cs, e) ← tagText? c.rest.length c
  if e.index == c.index then none else some (String.ofList cs, e)

/-- The handle of a tag, with its exclamation marks, and the place after it. -/
private def tagHandle? (c : Cursor) : Option (String × Cursor) :=
  if c.peek != '!' then none
  else if c.peekAt 1 == ' ' then some ("!", c.next)
  else
    let (name, e) := c.next.takeWhile isNameChar
    if e.peek == '!' then some (String.ofList ('!' :: name ++ ['!']), e.next) else none

/-- The handle and the text of a tag, and the place after it. -/
def tagParts? (c : Cursor) : Option (Option String × String × Cursor) :=
  let second := c.peekAt 1
  if second == '<' then do
    let (suffix, e) ← tagSuffix? (c.skip 2)
    if e.peek == '>' then some (none, suffix, e.next) else none
  else if isGap second then some (none, "!", c.next)
  else do
    let word := c.next.rest.takeWhile fun d => !isSpaceOrEnd d
    let (handle, e) ← if word.contains '!' then tagHandle? c else some ("!", c.next)
    let (suffix, e) ← tagSuffix? e
    some (some handle, suffix, e)

/-- The scan after a tag. -/
private def tag? (s : Scan) : Option Scan := do
  let s ← notePossible? s
  let (handle, suffix, c) ← tagParts? s.place
  if !isSpaceOrEnd c.peek then none
  else some { s.push (.tag handle suffix) with place := c, keyAllowed := false }

/-! ### Directives -/

/-- A number, and the place after it. -/
private def number? (c : Cursor) : Option (Nat × Cursor) :=
  let (ds, e) := c.takeWhile Char.isDigit
  if ds.isEmpty then none
  else some (ds.foldl (fun n d => 10 * n + (d.toNat - '0'.toNat)) 0, e)

/-- The directive after a percent sign, and the place after its line. -/
private def directiveParts? (c : Cursor) : Option (Directive × Cursor) := do
  let (name, c) := c.takeWhile isNameChar
  if name.isEmpty || !isSpaceOrEnd c.peek then none
  else
    let start := c.skipWhile (· == ' ')
    let (d, c) ← if name == "YAML".toList then do
        let (major, c) ← number? start
        if c.peek != '.' then none
        else do
          let (_, c) ← number? c.next
          if isSpaceOrEnd c.peek then some (Directive.version major, c) else none
      else if name == "TAG".toList then do
        let (handle, c) ← tagHandle? start
        if c.peek != ' ' then none
        else do
          let (expansion, c) ← tagSuffix? (c.skipWhile (· == ' '))
          if isSpaceOrEnd c.peek then some (Directive.handle handle expansion, c) else none
      else some (Directive.other, c.skipWhile fun d => !isLineEnd d)
    let c ← endOfLine? c
    some (d, c)

/-- The scan after a directive. -/
private def directive? (s : Scan) : Option Scan := do
  let s ← dropPossible? (unwind (-1) s)
  let (d, c) ← directiveParts? s.place.next
  some { s.push (.directive d) with place := c, keyAllowed := false }

/-! ### Scalars -/

/-- The scan after a block. -/
private def block? (folded : Bool) (s : Scan) : Option Scan := do
  let s ← dropPossible? s
  let (t, c) ← blockText? folded s.indent s.place.next
  some { s.push (.scalar (String.ofList t) false) with place := c, keyAllowed := true }

/-- The scan after a scalar in quotes. -/
private def quoted? (s : Scan) : Option Scan := do
  let s ← notePossible? s
  let (t, c) ← quotedText? s.place
  some { s.push (.scalar (String.ofList t) false) with place := c, keyAllowed := false }

/-- The scan after a plain scalar. -/
private def plain? (s : Scan) : Option Scan := do
  let s ← notePossible? s
  let (t, c, broken) := plainText (s.depth != 0) (s.indent + 1) s.place
  some { s.push (.scalar (String.ofList t) true) with place := c, keyAllowed := broken }

/-- Characters that no plain scalar starts with, except some of them before text. -/
def indicators : List Char := "-?:,[]\x7b\x7d#&*!|>'\"%@`".toList

/-- Does a plain scalar start here? -/
private def startsPlain (s : Scan) : Bool :=
  let c := s.place.peek
  (!isGap c && !indicators.contains c)
    || (!isGap (s.place.peekAt 1) && (c == '-' || (s.depth == 0 && (c == '?' || c == ':'))))

/-- The scan after the next token, if there is one. -/
private def step? (s : Scan) : Option Scan :=
  let c := s.place.peek
  let gapNext := isGap (s.place.peekAt 1)
  let marks := s.place.rest.take 3
  let separates := s.place.column == 0 && isGap (s.place.peekAt 3)
  if c == '%' && s.place.column == 0 then directive? s
  else if separates && marks == ['-', '-', '-'] then separator? .documentStart s
  else if separates && marks == ['.', '.', '.'] then separator? .documentEnd s
  else if c == '[' then openFlow? .flowSequenceStart s
  else if c == '\x7b' then openFlow? .flowMappingStart s
  else if c == ']' then closeFlow? .flowSequenceEnd s
  else if c == '\x7d' then closeFlow? .flowMappingEnd s
  else if c == ',' then comma? s
  else if c == '-' && gapNext then item? s
  else if c == '?' && (s.depth != 0 || gapNext) then question? s
  else if c == ':' && (s.depth != 0 || gapNext) then colon? s
  else if c == '*' then name? .alias s
  else if c == '&' then name? .anchor s
  else if c == '!' then tag? s
  else if c == '|' && s.depth == 0 then block? false s
  else if c == '>' && s.depth == 0 then block? true s
  else if c == '\'' || c == '"' then quoted? s
  else if startsPlain s then plain? s
  else none

/-- The scan at the end of the text, every step taking a token. -/
private def run? : Nat → Scan → Option Scan
  | 0, _ => none
  | fuel + 1, s => do
    let s ← dropStale? (toNextToken (s.place.rest.length + 1) s)
    let s := unwind s.place.column s
    if s.place.rest.isEmpty then dropPossible? (unwind (-1) s)
    else do
      let s ← step? s
      run? fuel s

end Scan

/-- The tokens from the `n`-th on with the marks of keys before those that they belong to. -/
def withKeyMarks (marks : List KeyMark) : Nat → List Token → List Token
  | _, [] => []
  | n, t :: ts =>
    let more := withKeyMarks marks (n + 1) ts
    match marks.find? fun m => m.token == n with
    | some m => if m.opensMap then .blockMappingStart :: .key :: t :: more else .key :: t :: more
    | none => t :: more

/-- The tokens of a document, if it can be cut into tokens. -/
def tokens? (cs : List Char) : Option (List Token) :=
  let c : Cursor := ⟨cs, 0, 0, 0⟩
  let c := if c.peek.toNat == 0xFEFF then c.next else c
  if cs.all isPrintable then
    (Scan.run? (cs.length + 2) { place := c }).map fun s => withKeyMarks s.marks 0 s.tokens.toList
  else none

end Yaml

end DocPages

import DocPages.Markup.Element

/-!
# Blocks

A text is read block by block, where a block ends before an empty line.  A `BlockReader` reads a
block as part of an element, or does not if the block is not of its kind; what it leaves of the
block is read next.
-/

namespace DocPages.Markup

/-- What is being read: text, the tight or loose items of a list, a block that has been moved to
the left, or a quote. -/
inductive Mode where
  | text
  | list
  | looseList
  | detabbed
  | quote
  deriving DecidableEq, Inhabited

/-- A way to read blocks as part of an element. -/
abbrev BlocksReader := Mode → Element → List (List Char) → Element

/-- A way to read one block as part of an element, given how blocks inside it are read: the element
after that, and what is left of the block. -/
abbrev BlockReader :=
  BlocksReader → Mode → Element → List Char → Option (Element × List (List Char))

/-- A text between empty lines; the first part of it is given in reverse. -/
private def splitBlocksFrom : List Char → List Char → List (List Char)
  | before, [] => [before.reverse]
  | before, '\n' :: '\n' :: cs => before.reverse :: splitBlocksFrom [] cs
  | before, c :: cs => splitBlocksFrom (c :: before) cs

/-- The blocks of a text. -/
def splitBlocks (cs : List Char) : List (List Char) :=
  splitBlocksFrom [] cs

/-- What is left of a block, unless nothing is. -/
def leftOver (cs : List Char) : List (List Char) :=
  if cs.isEmpty then [] else [cs]

/-- The blanks that set a block in. -/
def indentation (level : Nat) : List Char := List.replicate (4 * level) ' '

/-- Is the text set in? -/
def isIndented (cs : List Char) : Bool :=
  (Text.after? (indentation 1) cs).isSome

/-- The text with the lines that are set in moved to the left. -/
def detabLines (level : Nat) (cs : List Char) : List Char :=
  Text.unlines ((Text.lines cs).map fun l => (Text.after? (indentation level) l).getD l)

/-! ### Code -/

/-- An empty block, or an empty line at the start of one. -/
def readEmpty : BlockReader := fun _ _ parent block =>
  let fill (filler : List Char) : Element :=
    parent.mapLast fun last =>
      if last.kind == .code then { last with text := last.text ++ filler } else last
  match block with
  | [] => some (fill ['\n', '\n'], [])
  | '\n' :: rest => some (fill ['\n'], leftOver rest)
  | _ => none

/-- The line of code without the blanks that set it in. -/
private def codeLine? (line : List Char) : Option (List Char) :=
  (Text.after? (indentation 1) line).or (if line.all Text.isBlank then some [] else none)

/-- Code that is set in.  It goes on with code before it. -/
def readCode : BlockReader := fun _ _ parent block => do
  guard (isIndented block)
  let ls := Text.lines block
  let inside := ls.takeWhile fun l => (codeLine? l).isSome
  let code := Text.trimRight (Text.unlines (inside.filterMap codeLine?)) ++ ['\n']
  let rest := leftOver (Text.unlines (ls.drop inside.length))
  match parent.lastChild? with
  | some last =>
    if last.kind == .code then
      return (parent.setLast { last with text := last.text ++ '\n' :: code }, rest)
    else return (parent.add { kind := .code, text := code }, rest)
  | none => return (parent.add { kind := .code, text := code }, rest)

/-! ### Headings and rules -/

/-- The text of a heading, up to the number signs at the end of its line.  A backslash goes with
the next character, so there is one. -/
private def headingText? : List Char → Option (List Char)
  | [] => some []
  | '\\' :: [] => none
  | '\\' :: c :: cs => (headingText? cs).map fun t => '\\' :: c :: t
  | c :: cs =>
    if (c :: cs).all (· == '#') then some [] else (headingText? cs).map fun t => c :: t

/-- The level and the text of the heading on a line. -/
def heading? (line : List Char) : Option (Nat × List Char) :=
  let level := min 6 (line.takeWhile (· == '#')).length
  if level = 0 then none
  else (headingText? (line.drop level)).map fun t => (level, Text.trim t)

/-- A line that starts with number signs is a heading. -/
def readHeading : BlockReader := fun parse mode parent block => do
  let ls := Text.lines block
  let i ← ls.findIdx? fun l => (heading? l).isSome
  let (level, text) ← ls[i]?.bind heading?
  let before := Text.unlines (ls.take i)
  let after := Text.unlines (ls.drop (i + 1))
  let parent := if before.isEmpty then parent else parse mode parent [before]
  return (parent.add { kind := .heading level, text },
    leftOver (if mode == .looseList then detabLines 1 after else after))

/-- A line that is underlined is a heading. -/
def readUnderlined : BlockReader := fun _ _ parent block => do
  let ls := Text.lines block
  match ls with
  | text :: under :: rest =>
    let mark := under.takeWhile fun c => c == '=' || c == '-'
    guard (!mark.isEmpty && (under.drop mark.length).all (· == ' '))
    let level := if mark.head? == some '=' then 1 else 2
    return (parent.add { kind := .heading level, text := Text.trim text },
      leftOver (Text.unlines rest))
  | _ => none

/-- Are these characters at least the given number of marks, with at most two blanks after
each? -/
private def isRuleOf (mark : Char) : Nat → Nat → List Char → Bool
  | missing, _, [] => missing == 0
  | missing, gap, c :: cs =>
    if c = mark then gap ≤ 2 && isRuleOf mark (missing - 1) 0 cs
    else c == ' ' && isRuleOf mark missing (gap + 1) cs

/-- Is the line a rule? -/
def isRule (line : List Char) : Bool :=
  let lead := (line.takeWhile (· == ' ')).length
  let line := line.drop lead
  lead ≤ 3 && match line.head? with
    | some c => ['-', '_', '*'].contains c && isRuleOf c 3 0 line
    | none => false

/-- A line of dashes, low lines or stars is a rule. -/
def readRule : BlockReader := fun parse mode parent block => do
  let ls := Text.lines block
  let i ← ls.findIdx? isRule
  let before := ls.take i
  let parent := if before.isEmpty then parent else parse mode parent [Text.unlines before]
  return (parent.add { kind := .rule }, leftOver (Text.unlines (ls.drop (i + 1))))

/-! ### Quotes and paragraphs -/

/-- What a line of a quote says. -/
def quoted? (line : List Char) : Option (List Char) :=
  let lead := (line.takeWhile (· == ' ')).length
  if 3 < lead then none
  else
    match line.drop lead with
    | '>' :: ' ' :: r => some r
    | '>' :: r => some r
    | _ => none

/-- The line without the mark of a quote. -/
private def withoutQuote (line : List Char) : List Char :=
  if Text.trim line == ['>'] then [] else (quoted? line).getD line

/-- Lines from one with the mark of a quote on are a quote.  It goes on with a quote before it. -/
def readQuote : BlockReader := fun parse mode parent block => do
  let ls := Text.lines block
  let i ← ls.findIdx? fun l => (quoted? l).isSome
  let parent := parse mode parent [Text.unlines (ls.take i)]
  let inside := (if i = 0 then [] else [[]]) ++ (ls.drop i).map withoutQuote
  let blocks := splitBlocks (Text.unlines inside)
  let fresh := parent.add (parse .quote { kind := .quote } blocks)
  match parent.lastChild? with
  | some last =>
    if last.kind == .quote then return (parent.setLast (parse .quote last blocks), [])
    else return (fresh, [])
  | none => return (fresh, [])

/-- Any text is a paragraph.  In a tight item it is text of the item, or follows what is in it. -/
def readParagraph : BlockReader := fun _ mode parent block =>
  let text := Text.trimLeft block
  if text.isEmpty then some (parent, [])
  else if mode != .list then some (parent.add { kind := .paragraph, text }, [])
  else
    match parent.lastChild? with
    | some last => some (parent.setLast { last with tail := last.tail ++ '\n' :: block }, [])
    | none =>
      let text := if parent.text.isEmpty then text else parent.text ++ '\n' :: text
      some ({ parent with text }, [])

end DocPages.Markup

import DocPages.Markup.Fence
import DocPages.Markup.ItemBlock
import DocPages.Markup.Links
import DocPages.Markup.RawBlock

/-!
# Descriptions as markup

`markdown` turns the text of a description into markup: paragraphs between empty lines, headings,
lists, quotes, and code between fences or set in by four blanks.  `describe` also makes the links
to functions.
-/

namespace DocPages.Markup

/-- The ways to read a block, in the order in which they are tried. -/
def blockReaders : List BlockReader :=
  [readEmpty, readIndented, readCode, readHeading, readUnderlined, readRule, readItems true,
    readItems false, readQuote, readParagraph]

/-- The element after some blocks have been read as part of it; the number given is more than that
of the blocks and their parts inside one another. -/
private def readBlocksWithin : Nat → BlocksReader
  | 0, _, parent, _ => parent
  | _ + 1, _, parent, [] => parent
  | fuel + 1, mode, parent, block :: blocks =>
    let parse : BlocksReader := fun mode parent blocks => readBlocksWithin fuel mode parent blocks
    match blockReaders.findSome? fun r => r parse mode parent block with
    | some (parent, rest) => readBlocksWithin fuel mode parent (rest ++ blocks)
    | none => readBlocksWithin fuel mode parent blocks

/-- The document that a text stands for.  Each reader takes a character or a block, or moves the
block to the left, after which another one takes something. -/
def readDocument (text : List Char) : Element :=
  readBlocksWithin (2 * text.length + 4) .text { kind := .document } (splitBlocks text)

/-- The markup of a description. -/
def markdown (s : String) : String :=
  if (Text.strip s).isEmpty then ""
  else
    let (stash, ls) := setFencedAside #[] (textLines s)
    let (stash, text) := setRawAside stash (Text.unlines ls)
    Text.strip ((readDocument text).markup stash)

/-- The markup of a description, with links to functions. -/
def describe (s : String) : String :=
  linkNames (markdown s)

end DocPages.Markup

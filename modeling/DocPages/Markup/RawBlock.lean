import DocPages.Markup.Tag

/-!
# Blocks of tags

An element that stands as a block of its own and opens at the start of a line is markup already,
up to the tag that closes it.  `setRawAside` puts a mark in place of each such element, and of each
comment at the start of a line.
-/

namespace DocPages.Markup

/-- Elements that have no closing tag. -/
def voidNames : List String := ["hr"]

/-- Elements whose content has no tags. -/
def plainNames : List String := ["script", "style"]

/-- Does the tag close itself? -/
def Tag.isVoid (t : Tag) : Bool :=
  voidNames.contains (String.ofList t.name) || (t.written.reverse.drop 1).head? == some '/'

/-- The names of open elements after one with this name has been closed. -/
def closeElement (name : List Char) (names : List (List Char)) : List (List Char) :=
  if names.contains name then (names.dropWhile (· != name)).drop 1 else names

/-- The text up to the tag that closes the open elements, and what follows; the number given is
more than that of the characters. -/
private def rawWithin : Nat → List (List Char) → List Char → List Char × List Char
  | 0, _, cs => ([], cs)
  | _ + 1, _, [] => ([], [])
  | fuel + 1, names, c :: cs =>
    let continueWith (names : List (List Char)) (written rest : List Char) :
        List Char × List Char :=
      let (raw, rest) := rawWithin fuel names rest
      (written ++ raw, rest)
    match comment? (c :: cs), tag? (c :: cs) with
    | some (comment, rest), _ => continueWith names comment rest
    | none, some (tag, rest) =>
      if tag.isClosing then
        let names := closeElement tag.name names
        if names.isEmpty then (tag.written, rest) else continueWith names tag.written rest
      else if tag.isVoid then continueWith names tag.written rest
      else
        let plain : Option (List Char × List Char) :=
          if plainNames.contains (String.ofList tag.name) then
            Text.splitFirst? ('<' :: '/' :: tag.name) rest
          else none
        match plain with
        | some (content, after) =>
          continueWith (tag.name :: names) (tag.written ++ content)
            ('<' :: '/' :: tag.name ++ after)
        | none => continueWith (tag.name :: names) tag.written rest
    | none, none => continueWith names [c] cs

/-- Does the text start with two line ends, blanks aside? -/
def startsBlankLine (cs : List Char) : Bool :=
  match cs.dropWhile (· == ' ') with
  | '\n' :: r => (r.dropWhile (· == ' ')).head? == some '\n'
  | _ => false

/-- A block of tags: is it a single tag or comment, its characters, and what follows it. -/
structure RawBlock where
  isSingle : Bool
  written : List Char
  rest : List Char

/-- The block of tags that a text starts with. -/
def rawBlock? (cs : List Char) : Option RawBlock :=
  match comment? cs, tag? cs with
  | some (comment, rest), _ => some ⟨true, comment, rest⟩
  | none, some (tag, rest) =>
    if !isBlockName tag.name || tag.isClosing then none
    else if tag.isVoid then some ⟨true, tag.written, rest⟩
    else
      let (raw, rest) := rawWithin (cs.length + 1) [] cs
      some ⟨false, raw, rest⟩
  | none, none => none

/-- The line end before the mark for a block of tags, after a text in reverse. -/
def RawBlock.gap (b : RawBlock) (before : List Char) : List Char :=
  match b.isSingle, before with
  | false, _ => ['\n']
  | true, '\n' :: '\n' :: _ => []
  | true, '\n' :: _ => ['\n']
  | true, _ => []

/-- The number of blanks since a block of tags might start, after one more character.  It might
start at the start of a line, after at most three blanks. -/
def leadAfter (lead : Option Nat) (c : Char) : Option Nat :=
  if c = '\n' then some 0
  else if c = ' ' then lead.bind fun n => if n < 3 then some (n + 1) else none
  else none

/-- The text with marks for blocks of tags; the number given is more than that of the characters.
Known are the text before, in reverse, and the number of blanks since a block might start.  On the
line where a block has ended another one might start as well. -/
private def setRawAsideWithin :
    Nat → Stash → List Char → Option Nat → List Char → Stash × List Char
  | 0, stash, before, _, cs => (stash, before.reverse ++ cs)
  | _ + 1, stash, before, _, [] => (stash, before.reverse)
  | fuel + 1, stash, before, lead, c :: cs =>
    match lead.bind fun _ => rawBlock? (c :: cs) with
    | some b =>
      let isLast := startsBlankLine b.rest
      let (stash, mark) :=
        stash.store (String.ofList (if isLast then b.written ++ ['\n'] else b.written))
      setRawAsideWithin fuel stash
        ('\n' :: '\n' :: (mark.reverse ++ b.gap before ++ before))
        (if isLast then none else some 0) b.rest
    | none => setRawAsideWithin fuel stash (c :: before) (leadAfter lead c) cs

/-- The text with marks for blocks of tags. -/
def setRawAside (stash : Stash) (cs : List Char) : Stash × List Char :=
  setRawAsideWithin (cs.length + 1) stash [] (some 0) cs

end DocPages.Markup

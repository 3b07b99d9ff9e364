import DocPages.Markup.Block
import DocPages.Text.Digit

/-!
# Lists

A line that starts with a star, a plus, a dash, or a number and a dot is an item of a list.  The
items of one block are tight, their texts are not paragraphs.  A block of items after an empty line
goes on with the list before it; the items on both sides of the line are loose.  Blocks that are
set in belong to the item before them.
-/

namespace DocPages.Markup

/-- The line of an item: is the item numbered, and its text.  The mark follows a number of blanks
in the given range. -/
def itemLine? (fewest most : Nat) (line : List Char) : Option (Bool × List Char) :=
  let lead := (line.takeWhile (· == ' ')).length
  let line := line.drop lead
  let number := line.takeWhile Text.isDigit
  let after : Option (Bool × List Char) := match number, line.drop number.length with
    | _ :: _, '.' :: r => some (true, r)
    | [], c :: r => if ['*', '+', '-'].contains c then some (false, r) else none
    | _, _ => none
  match after with
  | some (numbered, ' ' :: r) =>
    if fewest ≤ lead && lead ≤ most then some (numbered, r.dropWhile (· == ' ')) else none
  | _ => none

/-- The items with one more line, the last item first.  A line that is no item goes on with the item
before it; an item that is set in starts a part of its own. -/
private def addItemLine (items : List (List Char)) (line : List Char) : List (List Char) :=
  match itemLine? 0 3 line, items with
  | some (_, text), _ => text :: items
  | none, last :: before =>
    if (itemLine? 4 7 line).isSome && !isIndented last then line :: items
    else (last ++ '\n' :: line) :: before
  | none, [] => items

/-- The items of a block. -/
def itemTexts (block : List Char) : List (List Char) :=
  ((Text.lines block).foldl addItemLine []).reverse

/-- The list with more items.  What is set in belongs to the last item. -/
private def addItems (parse : BlocksReader) (list : Element) (items : List (List Char)) : Element :=
  items.foldl (fun list item =>
    if isIndented item then list.mapLast fun last => parse .list last [item]
    else list.add (parse .list { kind := .item } [item])) list

/-- A block of items is a list, of numbers or bullets. -/
def readItems (numbered : Bool) : BlockReader := fun parse _ parent block => do
  let (isNumbered, _) ← itemLine? 0 3 (block.takeWhile (· != '\n'))
  guard (isNumbered == numbered)
  let items := itemTexts block
  let fresh : Element := { kind := if numbered then .numbers else .bullets }
  match parent.lastChild?.filter fun last => last.kind.isList with
  | some list =>
    let list := list.mapLast fun last => last.wrapText.wrapTail
    let list := list.add (parse .looseList { kind := .item } (items.take 1))
    return (parent.setLast (addItems parse list (items.drop 1)), [])
  | none =>
    if parent.kind.isList then return (addItems parse parent items, [])
    else return (parent.add (addItems parse fresh items), [])

/-- The list or item to which a block belongs that is set in so far, and the level at which it
is; the function gives the whole element for a change to that one.  The number given is more than
that of the elements on the way. -/
private def innermost : Nat → Nat → Nat → Element → Nat × ((Element → Element) → Element)
  | 0, _, level, e => (level, fun change => change e)
  | fuel + 1, wanted, level, e =>
    match e.lastChild? with
    | some child =>
      if level < wanted && (child.kind.isList || child.kind == .item) then
        let (level, whole) :=
          innermost fuel wanted (if child.kind.isList then level + 1 else level) child
        (level, fun change => e.setLast (whole change))
      else (level, fun change => change e)
    | none => (level, fun change => change e)

/-- A block that is set in after a list belongs to an item of it. -/
def readIndented : BlockReader := fun parse mode parent block => do
  let afterList := parent.lastChild?.any fun last => last.kind.isList
  guard (isIndented block && mode != .detabbed && (parent.kind == .item || afterList))
  let wanted := (block.takeWhile (· == ' ')).length / 4
  let (level, whole) :=
    innermost (2 * wanted + 2) wanted (if mode == .list then 1 else 0) parent
  let block := detabLines level block
  let parsed (e : Element) : Element := parse .detabbed e [block]
  if parent.kind == .item then
    return (if afterList then parent.mapLast parsed else parsed parent, [])
  else
    return (whole fun e =>
      if e.kind == .item then parsed e
      else if e.lastChild?.any fun last => last.kind == .item then
        e.mapLast fun last => parse .detabbed last.wrapText (splitBlocks block)
      else e.add (parsed { kind := .item }), [])

end DocPages.Markup

import DocPages.Text.Search

/-!
# Markup that is set aside

Code between fences and blocks of tags are finished before the text around them is read.  A
`Stash` keeps them, and in the text a mark stands for each, which no text can hold.
-/

namespace DocPages.Markup

/-- Markup that is set aside, in order. -/
abbrev Stash := Array String

/-- The character before the number of a mark. -/
def markOpening : Char := '\x02'

/-- The character after the number of a mark. -/
def markClosing : Char := '\x03'

/-- Is the character one of those around the number of a mark? -/
def isMarking (c : Char) : Bool :=
  c == markOpening || c == markClosing

/-- The mark with a number. -/
def markFor (n : Nat) : List Char :=
  markOpening :: (Nat.toDigits 10 n ++ [markClosing])

/-- The number of the mark at the start of a text, and what follows the mark. -/
def mark? : List Char → Option (Nat × List Char)
  | c :: cs =>
    if c = markOpening then
      (Text.splitFirst? [markClosing] cs).map fun (digits, rest) =>
        (digits.foldl (fun n d => 10 * n + (d.toNat - '0'.toNat)) 0, rest)
    else none
  | [] => none

/-- The stash with one more piece of markup, and the mark for it. -/
def Stash.store (stash : Stash) (markup : String) : Stash × List Char :=
  (stash.push markup, markFor stash.size)

/-- Names of elements that stand as blocks of their own. -/
def blockNames : List String :=
  ["address", "article", "aside", "blockquote", "details", "div", "dl", "fieldset", "figcaption",
    "figure", "footer", "form", "h1", "h2", "h3", "h4", "h5", "h6", "header", "hgroup", "hr",
    "main", "menu", "nav", "ol", "p", "pre", "section", "table", "ul", "canvas", "colgroup", "dd",
    "body", "dt", "group", "html", "iframe", "li", "legend", "math", "map", "noscript", "output",
    "object", "option", "progress", "script", "style", "summary", "tbody", "td", "textarea",
    "tfoot", "th", "thead", "tr", "video", "center"]

/-- Is this the name of an element that stands as a block of its own? -/
def isBlockName (name : List Char) : Bool :=
  blockNames.contains (String.ofList (name.map Char.toLower))

/-- Does markup start with the tag of a block, or with something that is no element? -/
def isBlockMarkup (markup : String) : Bool :=
  match markup.toList with
  | '<' :: r =>
    let r := match r with
      | '/' :: r => r
      | r => r
    let name := r.takeWhile fun c => c != ' ' && c != '>'
    match name with
    | [] => false
    | c :: _ =>
      "!?@%".toList.contains c || isBlockName (name.reverse.dropWhile (· == '/')).reverse
  | _ => false

end DocPages.Markup

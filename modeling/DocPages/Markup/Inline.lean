import DocPages.Markup.Anchor
import DocPages.Markup.Emphasis
import DocPages.Markup.Tag
import DocPages.Text.Hex

/-!
# Marks inside a text

Inside a paragraph backticks enclose code, a backslash takes the meaning from the next character,
tags and character references stand for themselves, and stars and low lines emphasise.
`inlinePasses` lists the passes that turn characters into markup, in their order, and `inline`
runs them.
-/

namespace DocPages.Markup

/-! ### Code -/

/-- The text up to a run of just `n` backticks, and what follows the run.  A part of the text is
given in reverse. -/
private def ticksClose? (n : Nat) : List Atom → List Atom → Option (List Atom × List Atom)
  | _, [] => none
  | content, a :: as =>
    let atRun : Bool := match content.head? with
      | none => false
      | some last => !last.isChar '`' && runLength '`' (a :: as) == n
    if atRun then some (content.reverse, (a :: as).drop n)
    else ticksClose? n (a :: content) as

/-- Code after the given number of backticks, or after the most that have others to close them. -/
private def codeWithin : Nat → List Atom → Option (List Atom × List Atom)
  | 0, _ => none
  | n + 1, as =>
    match ticksClose? (n + 1) [] (as.drop (n + 1)) with
    | some (content, rest) =>
      some ([.verbatim ("<code>" ++ escapeText (Text.strip (Atom.writtenAll content))
        ++ "</code>")], rest)
    | none => codeWithin n as

/-- A character that a backslash has taken the meaning from. -/
def escapedChar (c : Char) : Atom :=
  .done (String.ofList (escapeChar c)) (String.ofList ['\\', c])

/-- Code between backticks.  Pairs of backslashes before backticks are backslashes. -/
def code : Step := fun before as =>
  if before.any fun a => a.isChar '\\' then none
  else
    let n := runLength '\\' as
    if n = 0 then codeWithin (runLength '`' as) as
    else
      let rest := as.drop n
      if n % 2 = 0 && 0 < runLength '`' rest then
        some (List.replicate (n / 2) (escapedChar '\\'), rest)
      else none

/-! ### What stands for itself -/

/-- Characters that a backslash takes the meaning from. -/
def escapable : List Char := "\\`*_\x7b\x7d[]()>#+-.!".toList

/-- A backslash and the character after it. -/
def escaped : Step
  | _, .char '\\' :: .char c :: rest =>
    if escapable.contains c then some ([escapedChar c], rest)
    else some ([.char '\\', .char c], rest)
  | _, _ => none

/-- Two blanks at the end of a line. -/
def lineBreak : Step
  | _, .char ' ' :: .char ' ' :: .char '\n' :: rest => some ([.verbatim "<br />\n"], rest)
  | _, _ => none

/-- A tag or a comment. -/
def tagged : Step := fun _ as =>
  (inlineTag? as).map fun (tag, rest) => ([.verbatim (Atom.writtenAll tag)], rest)

/-- A character reference. -/
def reference : Step
  | _, .char '&' :: rest =>
    let (mark, kind, digits) : List Atom × (Char → Bool) × List Atom := match rest with
      | .char '#' :: .char 'x' :: r =>
        ([.char '#', .char 'x'], fun c => (Text.hexValue? c).isSome, r)
      | .char '#' :: r => ([.char '#'], Char.isDigit, r)
      | r => ([], Char.isAlphanum, r)
    let body := digits.takeWhile fun a => a.satisfies kind
    match body, digits.drop body.length with
    | _ :: _, .char ';' :: after =>
      some ([.verbatim ("&" ++ Atom.writtenAll (mark ++ body) ++ ";")], after)
    | _, _ => none
  | _, _ => none

/-- Up to three stars or low lines between white space. -/
def loneMarks : Step := fun before as =>
  let lone (c : Char) : Option (List Atom × List Atom) :=
    let n := runLength c as
    let after := as.drop n
    if 0 < n && n ≤ 3 && isEdge before && isEdge after.head? then
      some ([.verbatim (String.ofList (List.replicate n c))], after)
    else none
  (lone '*').or (lone '_')

/-! ### All marks -/

/-- The pass that takes a step wherever it applies, whatever the later passes do. -/
def Step.pass (step : Step) : Pass := fun _ => step.everywhere

/-- The passes over the text of a block. -/
def inlinePasses : List Pass :=
  [code.pass, escaped.pass, anchors, images.pass, addresses.pass, lineBreak.pass, tagged.pass,
    reference.pass, loneMarks.pass, stars, lowLines]

/-- The atoms of a text, all marks read. -/
def inline (stash : Stash) (text : List Char) : List Atom :=
  runPasses inlinePasses (atomsOf stash text)

end DocPages.Markup

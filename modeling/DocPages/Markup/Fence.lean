import DocPages.Markup.Escape
import DocPages.Markup.Stash
import DocPages.Text.Word

/-!
# Code between fences

A line of at least three backticks or tildes is a fence.  The lines between it and the next line
of the same fence are code, in the language that is named after the first fence.  `setFencedAside`
puts a mark in place of each such piece of code.
-/

namespace DocPages.Markup

/-! ### Lines -/

/-- A line whose tabs are blanks, up to the next column that four divides. -/
private def expandTabs : Nat → List Char → List Char
  | _, [] => []
  | column, c :: cs =>
    if c = '\t' then
      let n := 4 - column % 4
      List.replicate n ' ' ++ expandTabs (column + n) cs
    else c :: expandTabs (column + 1) cs

/-- The line, or an empty one if it has only blanks. -/
private def withoutBlanks (line : List Char) : List Char :=
  if line.all (· == ' ') then [] else line

/-- The lines of a text, without tabs and characters that are kept for marks, and two empty lines
after them.  Lines of blanks are empty, except the first. -/
def textLines (s : String) : List (List Char) :=
  let cs := Text.unifyLineEnds (s.toList.filter fun c => !isMarking c)
  match (Text.lines cs).map (expandTabs 0) with
  | [] => []
  | l :: ls => l :: ls.map withoutBlanks ++ [[], []]

/-! ### Fences -/

/-- Are these characters the choice of lines that may stand after the language of code? -/
private def isLineChoice (cs : List Char) : Bool :=
  match Text.after? "hl_lines=".toList cs with
  | some (q :: r) =>
    (q == '"' || q == '\'') && match Text.splitFirst? [q] r with
      | some (_, rest) => rest.all (· == ' ')
      | none => false
  | _ => false

/-- The fence that opens on a line, and the language of the code. -/
def fence? (line : List Char) : Option (List Char × String) :=
  match line with
  | c :: _ =>
    let run := line.takeWhile (· == c)
    if (c == '`' || c == '~') && 3 ≤ run.length then
      let rest := (line.drop run.length).dropWhile (· == ' ')
      let rest := match rest with
        | '.' :: r => r
        | r => r
      let language := rest.takeWhile fun c => Text.isWord c || "#.+-".toList.contains c
      let rest := (rest.drop language.length).dropWhile (· == ' ')
      if rest.isEmpty || isLineChoice rest then some (run, String.ofList language) else none
    else none
  | [] => none

/-- Is the line the end of the code after a fence? -/
def closesFence (run line : List Char) : Bool :=
  match Text.after? run line with
  | some r => r.all (· == ' ')
  | none => false

/-- The markup of code in a language. -/
def fencedMarkup (language : String) (code : List (List Char)) : String :=
  let class_ := if language.isEmpty then "" else " class=\"language-" ++ language ++ "\""
  "<pre><code" ++ class_ ++ ">"
    ++ escapeQuoted (String.ofList (code.flatMap fun l => l ++ ['\n'])) ++ "</code></pre>"

/-- The language and the code between the fences that the lines start with, and the lines after
the second fence. -/
def fencedCode? (line : List Char) (ls : List (List Char)) :
    Option (String × List (List Char) × List (List Char)) := do
  let (run, language) ← fence? line
  let code := ls.takeWhile fun l => !closesFence run l
  match ls.drop code.length with
  | [] => none
  | _ :: after => return (language, code, after)

/-- The lines with marks for the code between fences; the number given is more than that of the
lines. -/
private def setFencedAsideWithin :
    Nat → Stash → List (List Char) → Stash × List (List Char)
  | 0, stash, ls => (stash, ls)
  | _ + 1, stash, [] => (stash, [])
  | fuel + 1, stash, l :: ls =>
    match fencedCode? l ls with
    | some (language, code, after) =>
      let (stash, mark) := stash.store (fencedMarkup language code)
      let (stash, after) := setFencedAsideWithin fuel stash after
      (stash, [] :: mark :: [] :: after)
    | none =>
      let (stash, ls) := setFencedAsideWithin fuel stash ls
      (stash, l :: ls)

/-- The lines with marks for the code between fences. -/
def setFencedAside (stash : Stash) (ls : List (List Char)) : Stash × List (List Char) :=
  setFencedAsideWithin (ls.length + 1) stash ls

end DocPages.Markup

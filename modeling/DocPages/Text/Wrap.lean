import DocPages.Text.Blank

/-!
# Wrapping text

`wrap` breaks a text into lines of limited width.  A line is broken before a word that would
not fit; a word that is wider than any line is cut.
-/

namespace DocPages.Text

/-- The words of a text, each with the blanks after it, and the first with those before it. -/
def spacedWords (cs : List Char) : List (List Char) :=
  let rec go : Nat → List Char → List (List Char)
    | 0, _ => []
    | fuel + 1, cs =>
      let lead := cs.takeWhile isBlank
      let body := (cs.drop lead.length).takeWhile (!isBlank ·)
      let tail := (cs.drop (lead.length + body.length)).takeWhile isBlank
      if body.isEmpty then []
      else
        let n := lead.length + body.length + tail.length
        cs.take n :: go fuel (cs.drop n)
  go cs.length cs

/-- The text in parts of a width. -/
def cut (width : Nat) (cs : List Char) : List (List Char) :=
  let rec go : Nat → List Char → List (List Char)
    | 0, _ => []
    | fuel + 1, cs =>
      if cs.isEmpty then [] else cs.take width :: go fuel (cs.drop width)
  go cs.length cs

/-- Lines of a width from words, the line that is being filled given. -/
def fillLines (width : Nat) : List Char → List (List Char) → List (List Char)
  | line, [] => [line]
  | line, w :: ws =>
    let size := (trimRight w).length
    if line.length + size ≤ width then fillLines width (line ++ w) ws
    else if width < size then
      let parts := cut width w
      (if line.isEmpty then [] else [line]) ++ parts.dropLast
        ++ fillLines width (parts.getLast?.getD []) ws
    else if line.isEmpty then fillLines width w ws
    else line :: fillLines width w ws

/-- The line without blanks beyond the width. -/
def dropExcess (width : Nat) (line : List Char) : List Char :=
  line.take (max width (trimRight line).length)

/-- The text in lines of a width. -/
def wrap (width : Nat) (s : String) : String :=
  let ls := fillLines width [] (spacedWords s.toList)
  "\n".intercalate (ls.map fun l => String.ofList (dropExcess width l))

end DocPages.Text

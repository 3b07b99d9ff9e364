import DocPages.Text.Blank
import DocPages.Text.Search

/-!
# Pairs

A pair is a line of code with a comment that says what comes of it: `add(1, 2) // => 3`.
`Pair.parse?` reads one and `PairBlock.ofText` the pairs of a text, whose lines before the
first pair are the preamble.
-/

namespace DocPages

/-- The code and the comment of a line. -/
structure Pair where
  left : String
  right : String
  deriving DecidableEq, Inhabited

namespace Pair

/-- The comment at the start of a text after blanks: what follows two slashes, spaces, an
arrow if there is one, and blanks.  A comment is the end of a text; one line feed may close
it. -/
def comment? (cs : List Char) : Option (List Char) :=
  match Text.trimLeft cs with
  | '/' :: '/' :: r =>
    let r := r.dropWhile (· == ' ')
    let r := (Text.after? ['=', '>'] r).getD r
    let r := Text.trimLeft r
    let line := r.takeWhile (· != '\n')
    match r.dropWhile (· != '\n') with
    | [] | ['\n'] => some line
    | _ => none
  | _ => none

/-- The longest part of the first line that a comment follows, and the comment. -/
def split? : List Char → Option (List Char × List Char)
  | [] => none
  | c :: cs =>
    match if c = '\n' then none else split? cs with
    | some (left, right) => some (c :: left, right)
    | none => (comment? (c :: cs)).map fun right => ([], right)

/-- The pair that a line is, if it holds a comment. -/
def parse? (line : String) : Option Pair :=
  (split? line.toList).map fun p =>
    ⟨String.ofList (Text.trim p.1), String.ofList (Text.trim p.2)⟩

end Pair

/-- The pairs of a text, with its lines before the first one. -/
structure PairBlock where
  content : String
  preamble : String
  pairs : List Pair
  deriving DecidableEq, Inhabited

/-- The pairs of a text.  Lines after the first pair that are no pairs are dropped. -/
def PairBlock.ofText (s : String) : PairBlock :=
  let ls := (Text.lines s.toList).map String.ofList
  { content := s
    preamble := "\n".intercalate (ls.takeWhile fun l => (Pair.parse? l).isNone)
    pairs := ls.filterMap Pair.parse? }

end DocPages

import DocPages.Markup.Atom
import DocPages.Text.Word

/-!
# Emphasis

One star or low line around a text emphasises it, two make it strong, three do both.  Emphasis by
stars does not start before white space or end after it.  Low lines do not start or end emphasis
inside a word; stars do, if there are as many at the start as at the end.  After every match the
search starts again from the left, so that a text that holds what has been emphasised before can
be emphasised as a whole.
-/

namespace DocPages.Markup

/-- A text with emphasis at its start: its parts, put together from what a function makes of
each, and what follows. -/
abbrev Emphasised := (List Atom → List Atom) → Option (Atom × List Atom)

/-- The text up to `n` times the character `c`, and what follows them. -/
private def splitMarks? (c : Char) (n : Nat) : List Atom → Option (List Atom × List Atom)
  | [] => none
  | a :: as =>
    if n ≤ runLength c (a :: as) then some ([], (a :: as).drop n)
    else (splitMarks? c n as).map fun (content, rest) => (a :: content, rest)

/-- The same, for a text that is not empty. -/
private def splitMarksAfter? (c : Char) (n : Nat) : List Atom → Option (List Atom × List Atom)
  | [] => none
  | a :: as => (splitMarks? c n as).map fun (content, rest) => (a :: content, rest)

/-- Three marks, a text, one mark, a text and two marks. -/
def strongOfEm (c : Char) (as : List Atom) : Emphasised := fun inner => do
  guard (3 ≤ runLength c as)
  let (a, r) ← splitMarksAfter? c 1 (as.drop 3)
  let (b, r) ← splitMarks? c 2 r
  return (element "strong" (element "em" (inner a) :: inner b), r)

/-- Three marks, a text, two marks, a text and one mark. -/
def emOfStrong (c : Char) (as : List Atom) : Emphasised := fun inner => do
  guard (3 ≤ runLength c as)
  let (a, r) ← splitMarksAfter? c 2 (as.drop 3)
  let (b, r) ← splitMarks? c 1 r
  return (element "em" (element "strong" (inner a) :: inner b), r)

/-! ### Stars -/

/-- The atoms up to the next star, of which there is at least one, and the rest. -/
private def beforeStar? (as : List Atom) : Option (List Atom × List Atom) :=
  let content := as.takeWhile fun a => !a.isChar '*'
  if content.isEmpty then none else some (content, as.drop content.length)

/-- Does a text neither start nor end with white space? -/
private def isTight (content : List Atom) : Bool :=
  !isBlankAtom content.head? && !isBlankAtom content.getLast?

/-- Two stars, a text, one star, a text and three stars. -/
def strongBeforeEm (as : List Atom) : Emphasised := fun inner => do
  guard (runLength '*' as == 2)
  let (a, r) ← beforeStar? (as.drop 2)
  guard (runLength '*' r == 1)
  let (b, r) ← splitMarksAfter? '*' 3 (r.drop 1)
  return (element "strong" (inner a ++ [element "em" (inner b)]), r)

/-- Two stars, a text without stars and two stars. -/
def strongStars (as : List Atom) : Emphasised := fun inner => do
  guard (2 ≤ runLength '*' as)
  let (a, r) ← beforeStar? (as.drop 2)
  guard (isTight a && 2 ≤ runLength '*' r)
  return (element "strong" (inner a), r.drop 2)

/-- The text up to a single star, and what follows the star.  The text, of which a part is given
in reverse, may hold two stars inside a word. -/
private def singleContent? : Nat → List Atom → List Atom → Option (List Atom × List Atom)
  | 0, _, _ => none
  | fuel + 1, content, as =>
    let isAtText (a : Option Atom) : Bool := a.isSome && !isBlankAtom a
    match runLength '*' as, as with
    | 0, a :: r => singleContent? fuel (a :: content) r
    | 1, _ :: r => if isAtText content.head? then some (content.reverse, r) else none
    | 2, a :: b :: r =>
      if isAtText content.head? && isAtText r.head? then singleContent? fuel (b :: a :: content) r
      else none
    | _, _ => none

/-- A single star, a text without single stars, and a single star. -/
def emStar (before : Option Atom) (as : List Atom) : Emphasised := fun inner => do
  guard (runLength '*' as == 1 && !(before.any fun a => a.isChar '*'))
  let r := as.drop 1
  guard (!isBlankAtom r.head?)
  let (a, r) ← singleContent? (r.length + 1) [] r
  return (element "em" (inner a), r)

/-- The last of some stars, a text without stars and the first of some stars that no word
follows. -/
def emOuterStar (as : List Atom) : Emphasised := fun inner => do
  guard (runLength '*' as == 1)
  let (a, r) ← beforeStar? (as.drop 1)
  let n := runLength '*' r
  guard (isTight a && 0 < n && !((r.drop n).head?.any fun b => b.satisfies Text.isWord))
  return (element "em" (inner a), r.drop 1)

/-- Emphasis by stars at the start of atoms. -/
def starsAt (before : Option Atom) (as : List Atom) : Emphasised := fun inner =>
  [strongOfEm '*' as, emOfStrong '*' as, strongBeforeEm as, strongStars as, emStar before as,
    emOuterStar as].findSome? fun e => e inner

/-- The atoms with the first emphasis in them, those before it in reverse. -/
private def firstWithin (at_ : Option Atom → List Atom → Emphasised)
    (inner : List Atom → List Atom) : List Atom → List Atom → Option (List Atom)
  | _, [] => none
  | before, a :: as =>
    match at_ before.head? (a :: as) inner with
    | some (e, rest) => some (before.reverse ++ e :: rest)
    | none => firstWithin at_ inner (a :: before) as

/-- The atoms with all emphasis by stars, of which there are no more than the given number. -/
private def starsWithin (later : List Atom → List Atom) : Nat → List Atom → List Atom
  | 0, as => as
  | fuel + 1, as =>
    match firstWithin starsAt (fun a => later (starsWithin later fuel a)) [] as with
    | some as => starsWithin later fuel as
    | none => as

/-- Emphasis by stars. -/
def stars : Pass := fun later as => starsWithin later as.length as

/-! ### Low lines -/

/-- Is the atom part of a word? -/
private def isWordAtom (a : Option Atom) : Bool :=
  a.any fun a => a.satisfies Text.isWord

/-- The text up to `n` low lines that no word follows, and what follows them. -/
private def lowLinesClose? (n : Nat) : List Atom → List Atom → Option (List Atom × List Atom)
  | _, [] => none
  | content, a :: as =>
    let closes : Bool := match content.head? with
      | none => false
      | some last =>
        !last.isChar '_' && n ≤ runLength '_' (a :: as) && !isWordAtom ((a :: as).drop n).head?
    if closes then some (content.reverse, (a :: as).drop n)
    else lowLinesClose? n (a :: content) as

/-- The text up to a single low line that follows no word, and what follows it. -/
private def singleLowLine? : List Atom → List Atom → Option (List Atom × List Atom)
  | _, [] => none
  | content, a :: as =>
    if !content.isEmpty && runLength '_' (a :: as) == 1 && !isWordAtom content.head? then
      some (content.reverse, as)
    else singleLowLine? (a :: content) as

/-- Two low lines, a text, one low line, a text and three low lines. -/
def strongBeforeLowEm (before : Option Atom) (as : List Atom) : Emphasised := fun inner => do
  guard (runLength '_' as == 2 && !isWordAtom before)
  let (a, r) ← singleLowLine? [] (as.drop 2)
  let (b, r) ← splitMarksAfter? '_' 3 r
  guard (!isWordAtom r.head?)
  return (element "strong" (inner a ++ [element "em" (inner b)]), r)

/-- Low lines, a text and as many low lines. -/
def lowLinesAround (n : Nat) (name : String) (before : Option Atom) (as : List Atom) :
    Emphasised := fun inner => do
  guard (runLength '_' as == n && !isWordAtom before)
  let (a, r) ← lowLinesClose? n [] (as.drop n)
  return (element name (inner a), r)

/-- Emphasis by low lines at the start of atoms. -/
def lowLinesAt (before : Option Atom) (as : List Atom) : Emphasised := fun inner =>
  [strongOfEm '_' as, emOfStrong '_' as, strongBeforeLowEm before as,
    lowLinesAround 2 "strong" before as, lowLinesAround 1 "em" before as].findSome? fun e =>
      e inner

/-- The atoms with all emphasis by low lines, of which there are no more than the given
number. -/
private def lowLinesWithin (later : List Atom → List Atom) : Nat → List Atom → List Atom
  | 0, as => as
  | fuel + 1, as =>
    match firstWithin lowLinesAt (fun a => later (lowLinesWithin later fuel a)) [] as with
    | some as => lowLinesWithin later fuel as
    | none => as

/-- Emphasis by low lines. -/
def lowLines : Pass := fun later as => lowLinesWithin later as.length as

end DocPages.Markup

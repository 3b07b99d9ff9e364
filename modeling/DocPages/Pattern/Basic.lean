import DocPages.Text.Blank
import DocPages.Text.Case
import DocPages.Text.Digit
import DocPages.Text.Word

/-!
# Patterns

A `Pattern` is a regular expression with the text it was read from.  `Pattern.Node.ends` lists
the states in which the expression has matched from a state on, in the order in which they are
tried, and `Pattern.search` asks whether the pattern matches anywhere.
-/

namespace DocPages

namespace Pattern

/-! ### Forms of letters -/

/-- How a letter in a pattern stands for its other forms: not at all, for the one of the other
case in ASCII, or for every form in every script. -/
inductive LetterCase where
  | exact
  | ascii
  | every
  deriving DecidableEq, Inhabited

/-- The lower case of a character, or what that starts with. -/
def small (c : Char) : Char :=
  (Text.lower c).headD c

/-- The character that a text of one character is, else the given one. -/
private def only (c : Char) : List Char → Char
  | [d] => d
  | _ => c

/-- Letters some forms of which are neither the lower nor the title case of another one. -/
def letterFamilies : List (List Nat) := [
    [0x49, 0x69, 0x130, 0x131], [0x4B, 0x6B, 0x212A], [0x53, 0x73, 0x17F], [0xB5, 0x39C, 0x3BC],
    [0xC5, 0xE5, 0x212B], [0xDF, 0x1E9E], [0x1C4, 0x1C5, 0x1C6], [0x1C7, 0x1C8, 0x1C9],
    [0x1CA, 0x1CB, 0x1CC], [0x1F1, 0x1F2, 0x1F3], [0x345, 0x399, 0x3B9, 0x1FBE], [0x390, 0x1FD3],
    [0x392, 0x3B2, 0x3D0], [0x395, 0x3B5, 0x3F5], [0x398, 0x3B8, 0x3D1, 0x3F4],
    [0x39A, 0x3BA, 0x3F0], [0x3A0, 0x3C0, 0x3D6], [0x3A1, 0x3C1, 0x3F1], [0x3A3, 0x3C2, 0x3C3],
    [0x3A6, 0x3C6, 0x3D5], [0x3A9, 0x3C9, 0x2126], [0x3B0, 0x1FE3], [0x412, 0x432, 0x1C80],
    [0x414, 0x434, 0x1C81], [0x41E, 0x43E, 0x1C82], [0x421, 0x441, 0x1C83],
    [0x422, 0x442, 0x1C84, 0x1C85], [0x42A, 0x44A, 0x1C86], [0x462, 0x463, 0x1C87],
    [0x1C88, 0xA64A, 0xA64B], [0x1E60, 0x1E61, 0x1E9B], [0xFB05, 0xFB06]]

/-- The forms of a letter. -/
def letterForms (c : Char) : List Char :=
  let low := small c
  let high := only low (Text.title low)
  let family := (letterFamilies.filter fun ns => ns.contains c.toNat).flatten.map Char.ofNat
  -- The Georgian letters are in title case when they are small.
  let capital :=
    if 0x10D0 ≤ low.toNat && low.toNat ≤ 0x10FF && low.toNat != 0x10FB && low.toNat != 0x10FC then
      [Char.ofNat (low.toNat + 0xBC0)]
    else []
  [c, low, high, small high] ++ family ++ capital

/-- The characters that the character stands for. -/
def LetterCase.forms : LetterCase → Char → List Char
  | exact, c => [c]
  | ascii, c => [c.toLower, c.toUpper]
  | every, c => letterForms c

/-- The form of a letter by which it is compared with another one. -/
def LetterCase.fold : LetterCase → Char → Char
  | exact, c => c
  | ascii, c => c.toLower
  | every, c => small c

/-! ### Classes of characters -/

/-- A class of characters.  Characters are given by code points, and one that is the code point
of no character is only the end of a range. -/
inductive CharClass where
  | single (n : Nat)
  | range (lo hi : Nat)
  | digit (ascii : Bool)
  | word (ascii : Bool)
  | blank (ascii : Bool)
  | other (k : CharClass)
  deriving DecidableEq, Inhabited

/-- A word character, perhaps of ASCII only. -/
def isWord (ascii : Bool) (c : Char) : Bool :=
  Text.isWord c && (!ascii || c.toNat < 0x80)

/-- A space, or a control character from tab to carriage return. -/
def isAsciiBlank (c : Char) : Bool :=
  c == ' ' || (9 ≤ c.toNat && c.toNat ≤ 13)

namespace CharClass

/-- Is the character of this class? -/
def accepts : CharClass → Char → Bool
  | single n, c => c.toNat == n
  | range lo hi, c => lo ≤ c.toNat && c.toNat ≤ hi
  | digit ascii, c => Text.isDigit c && (!ascii || c.toNat < 0x80)
  | word ascii, c => isWord ascii c
  | blank ascii, c => if ascii then isAsciiBlank c else Text.isBlank c
  | other k, c => !k.accepts c

/-- Is the character of this class, or one that it stands for? -/
def acceptsForm (k : CharClass) (letters : LetterCase) (c : Char) : Bool :=
  match k with
  | single _ | range _ _ => (letters.forms c).any k.accepts
  | k => k.accepts c

end CharClass

/-- The characters of some classes, or all but those. -/
structure CharSet where
  negated : Bool
  classes : List CharClass
  letters : LetterCase := .exact
  deriving DecidableEq, Inhabited

/-- Is the character in the set? -/
def CharSet.accepts (s : CharSet) (c : Char) : Bool :=
  (s.classes.any fun k => k.acceptsForm s.letters c) != s.negated

/-! ### Expressions -/

/-- How often an expression is tried first: as often as it matches, or as rarely as allowed. -/
inductive Eagerness where
  | greedy
  | reluctant
  deriving DecidableEq, Inhabited

/-- Where an expression is asked to match without taking anything: from here on, or so that it
ends here after the given number of characters. -/
inductive Direction where
  | ahead
  | behind (width : Nat)
  deriving DecidableEq, Inhabited

/-- A place in a text. -/
inductive Anchor where
  | textStart
  | textEnd
  | lastLineEnd
  | lineStart
  | lineEnd
  | boundary (ascii negated : Bool)
  deriving DecidableEq, Inhabited

/-- A regular expression. -/
inductive Node where
  | nothing
  | char (set : CharSet)
  | anchor (a : Anchor)
  | seq (a b : Node)
  | alt (a b : Node)
  | repeated (a : Node) (least : Nat) (most : Option Nat) (eagerness : Eagerness)
  | group (number : Nat) (a : Node)
  | first (a : Node)
  | look (d : Direction) (negated : Bool) (a : Node)
  | again (number : Nat) (letters : LetterCase)
  | ifMatched (number : Nat) (a b : Node)
  deriving Inhabited

/-- How far a match has come: the place in the text, and the texts of the groups that are
referred to. -/
structure State where
  place : Nat
  groups : List (Nat × List Char) := []
  deriving DecidableEq, Inhabited

/-- Is the place such a one? -/
def Anchor.holds (text : Array Char) (place : Nat) : Anchor → Bool
  | textStart => place == 0
  | textEnd => place == text.size
  | lastLineEnd => place == text.size || (place + 1 == text.size && text[place]? == some '\n')
  | lineStart => place == 0 || text[place - 1]? == some '\n'
  | lineEnd => place == text.size || text[place]? == some '\n'
  | boundary ascii negated =>
    let before := place != 0 && (text[place - 1]?).any (isWord ascii)
    let after := (text[place]?).any (isWord ascii)
    text.size != 0 && (before != after) != negated

/-- The state after a text that must come next. -/
private def expect (text : Array Char) (letters : LetterCase) (s : State) :
    List Char → Option State
  | [] => some s
  | c :: cs =>
    match text[s.place]? with
    | some d =>
      if letters.fold c == letters.fold d then
        expect text letters { s with place := s.place + 1 } cs
      else none
    | none => none

/-- The states after `step` has been taken `n` times. -/
private def rounds (step : State → List State) : Nat → List State → List State
  | 0, front => front
  | n + 1, front => rounds step n (front.flatMap step).eraseDups

/-- States that have been met, each with the number of steps that were left, and the states of a
match, the last one first. -/
private structure Met where
  seen : List (Nat × State) := []
  found : List State := []

/-- The states that `step` reaches from `s` in at most `n` times; if `counted` does not hold, the
number only bounds the search. -/
private def reach (step : State → List State) (counted : Bool) (e : Eagerness) :
    Nat → Met → State → Met
  | n, m, s =>
    let key := (if counted then n else 0, s)
    if m.seen.contains key then m
    else
      let here (m : Met) : Met := { m with found := s :: m.found }
      let m : Met := { m with seen := key :: m.seen }
      let onward (m : Met) : Met := match n with
        | 0 => m
        | n + 1 => (step s).foldl (fun m t => reach step counted e n m t) m
      match e with
      | .greedy => here (onward m)
      | .reluctant => onward (here m)

/-- The states in which the expression has matched in the text from a state on, those tried first
at the front.  Only the groups in `kept` are remembered. -/
def Node.ends (text : Array Char) (kept : List Nat) : Node → State → List State
  | nothing, s => [s]
  | char set, s =>
    match text[s.place]? with
    | some c => if set.accepts c then [{ s with place := s.place + 1 }] else []
    | none => []
  | anchor a, s => if a.holds text s.place then [s] else []
  | seq a b, s => ((a.ends text kept s).flatMap (b.ends text kept)).eraseDups
  | alt a b, s => (a.ends text kept s ++ b.ends text kept s).eraseDups
  | repeated a least most e, s =>
    let step := a.ends text kept
    let room := text.size + 1
    let front := rounds step (min least (room + 1)) [s]
    let (counted, more) : Bool × Nat := match most with
      | some m => (m - least < room, min (m - least) room)
      | none => (false, room)
    (front.foldl (reach step counted e more) {}).found.reverse.eraseDups
  | group number a, s =>
    (a.ends text kept s).map fun t =>
      if kept.contains number then
        let taken := (text.extract s.place t.place).toList
        { t with groups := (number, taken) :: t.groups.filter fun g => g.1 != number }
      else t
  | first a, s => (a.ends text kept s).take 1
  | look d negated a, s =>
    let start? : Option State := match d with
      | .ahead => some s
      | .behind width => if width ≤ s.place then some { s with place := s.place - width } else none
    let found := match start? with
      | some t => a.ends text kept t
      | none => []
    match negated, found with
    | false, t :: _ => [{ t with place := s.place }]
    | true, [] => [s]
    | _, _ => []
  | again number letters, s =>
    match s.groups.lookup number with
    | some cs => (expect text letters s cs).toList
    | none => []
  | ifMatched number a b, s =>
    if (s.groups.lookup number).isSome then a.ends text kept s else b.ends text kept s

/-- Does the expression match in the text at the place or at one of the next `n` places? -/
def Node.matchesWithin (text : Array Char) (kept : List Nat) (a : Node) : Nat → Nat → Bool
  | 0, place => !(a.ends text kept ⟨place, []⟩).isEmpty
  | n + 1, place =>
    !(a.ends text kept ⟨place, []⟩).isEmpty || a.matchesWithin text kept n (place + 1)

end Pattern

/-- A regular expression with the text it was read from, and the groups that it refers to. -/
structure Pattern where
  source : String
  node : Pattern.Node
  kept : List Nat := []
  deriving Inhabited

/-- Does the pattern match somewhere in the text? -/
def Pattern.search (p : Pattern) (s : String) : Bool :=
  let text := s.toList.toArray
  p.node.matchesWithin text p.kept text.size 0

end DocPages

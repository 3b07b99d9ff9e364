import DocPages.Markup.Escape
import DocPages.Markup.Stash
import DocPages.Text.Blank

/-!
# Text that is partly marked up

Inside a paragraph a text becomes a list of atoms, which are characters or already markup.  One
pass after the other turns characters into markup; to the later passes that markup is closed,
and its content is handed to them apart.
-/

namespace DocPages.Markup

/-- A character, finished markup with what it was written as, or markup around atoms. -/
inductive Atom where
  | char (c : Char)
  | done (markup written : String)
  | nest (opening : String) (content : List Atom) (closing : String)
  deriving Inhabited

namespace Atom

/-- Is the atom this character? -/
def isChar : Atom → Char → Bool
  | char c, d => c == d
  | _, _ => false

/-- Is the atom a character of which the condition holds? -/
def satisfies (p : Char → Bool) : Atom → Bool
  | char c => p c
  | _ => false

mutual

/-- The atom as it stands in finished markup. -/
def finished : Atom → String
  | char c => String.ofList (escapeChar c)
  | done markup _ => markup
  | nest opening content closing => opening ++ finishedAll content ++ closing
termination_by structural a => a

/-- Some atoms as they stand in finished markup. -/
def finishedAll : List Atom → String
  | [] => ""
  | a :: as => finished a ++ finishedAll as
termination_by structural as => as

end

/-- The atom as it was written, or as it stands in finished markup. -/
def written : Atom → String
  | char c => String.singleton c
  | done _ written => written
  | a => a.finished

/-- Some atoms as they were written. -/
def writtenAll (as : List Atom) : String :=
  String.join (as.map written)

/-- Markup that is written as it is. -/
def verbatim (s : String) : Atom := done s s

end Atom

/-- The atoms of a text, marks for what is set aside included; the text is no longer than
another one. -/
private def atomsWithin (stash : Stash) : List Char → List Char → List Atom
  | [], _ => []
  | _ :: fuel, cs =>
    match cs with
    | [] => []
    | c :: r =>
      match mark? cs with
      | some (n, rest) => .verbatim (stash[n]?.getD "") :: atomsWithin stash fuel rest
      | none => .char c :: atomsWithin stash fuel r

/-- The atoms of a text, marks for what is set aside included. -/
def atomsOf (stash : Stash) (cs : List Char) : List Atom :=
  atomsWithin stash cs cs

/-- A pass over atoms, given what the later passes do. -/
abbrev Pass := (List Atom → List Atom) → List Atom → List Atom

/-- Atoms after some passes. -/
def runPasses : List Pass → List Atom → List Atom
  | [], as => as
  | p :: ps, as => runPasses ps (p (runPasses ps) as)

/-- A step of a pass: what the start of some atoms turns into, and the rest.  The atom before is
known. -/
abbrev Step := Option Atom → List Atom → Option (List Atom × List Atom)

/-- A pass over at most the given number of atoms. -/
private def passWithin (step : Step) : Nat → Option Atom → List Atom → List Atom
  | 0, _, as => as
  | _ + 1, _, [] => []
  | fuel + 1, before, a :: as =>
    match step before (a :: as) with
    | some (new, rest) => new ++ passWithin step fuel (new.getLast?.or before) rest
    | none => a :: passWithin step fuel (some a) as

/-- The pass that takes a step wherever it applies. -/
def Step.everywhere (step : Step) (as : List Atom) : List Atom :=
  passWithin step as.length none as

/-- The number of atoms at the start that are the given character. -/
def runLength (c : Char) (as : List Atom) : Nat :=
  (as.takeWhile fun a => a.isChar c).length

/-- Is there no atom, or one that is white space? -/
def isEdge (a : Option Atom) : Bool :=
  a.all fun a => a.satisfies Text.isBlank

/-- Is the atom a white space? -/
def isBlankAtom (a : Option Atom) : Bool :=
  a.any fun a => a.satisfies Text.isBlank

/-- An element around atoms. -/
def element (name : String) (content : List Atom) : Atom :=
  .nest ("<" ++ name ++ ">") content ("</" ++ name ++ ">")

end DocPages.Markup

import DocPages.Script.Token

/-!
# Semicolons that are left out

A statement may end without a semicolon: at the end of the script, before a closing brace, and
at the end of a line unless what follows goes on with the statement.  `endsAt` tells whether a
statement may end at a place, and `finish` reads the end of a statement.
-/

namespace DocPages

namespace Script

/-- How a search for the next token past comments ends: a slash that starts no comment, or the
rest of the text and whether a line has ended inside or after a comment. -/
inductive Passed where
  | slash
  | reached (newLine : Bool) (rest : List Char)

/-- The text after the two characters that end a comment, and whether a line ends before. -/
private def blockRest (newLine : Bool) : List Char → Bool × List Char
  | [] => (newLine, [])
  | '*' :: '/' :: r => (newLine, r)
  | c :: r => blockRest (newLine || isLineEnd c) r

/-- The next token past blanks and comments.  Unless `all` comments are passed, a comment
between delimiters is the last one, if no slash follows it at once. -/
private def passWithin (all : Bool) : List Char → Bool → List Char → Passed
  | [], _, cs => .reached true cs
  | _ :: fuel, newLine, cs =>
    match cs.dropWhile isSpace with
    | '/' :: '/' :: r => passWithin all fuel newLine (r.dropWhile fun c => !isLineEnd c)
    | '/' :: '*' :: r =>
      let (newLine, r) := blockRest newLine r
      if all || r.head? == some '/' then passWithin all fuel newLine r else .reached newLine r
    | '/' :: _ => .slash
    | r => .reached true r

/-- The next token past blanks and comments. -/
def passComments (all : Bool) (cs : List Char) : Passed :=
  passWithin all cs false cs

/-- Does a text that starts a line start a new statement, rather than go on with the one
before? -/
def startsStatement : List Char → Bool
  | '.' :: r => r.head?.any Char.isDigit
  | '+' :: r => r.head? == some '+'
  | '-' :: r => r.head? == some '-'
  | '!' :: r => r.head? != some '='
  | 'i' :: 'n' :: r =>
    if !(r.head?.any Char.isAlpha) then false
    else
      match Text.after? "stanceof".toList r with
      | some r => r.head?.any Char.isAlpha
      | none => true
  | c :: _ => !("`,:;*%><=[(?^|&/".toList.contains c)
  | [] => true

/-- `endsBefore`, for a text no longer than another one. -/
private def endsWithin (afterWord : Bool) : List Char → List Char → Bool
  | [], cs => cs.isEmpty
  | _ :: fuel, cs =>
    let onLine (r : List Char) : Bool :=
      match r with
      | [] => false
      | c :: r' =>
        if c = '\x7d' then true
        else if isLineEnd c then
          match passComments true r' with
          | .slash => false
          | .reached _ r => startsStatement r
        else isSpace c && endsWithin afterWord fuel r'
    match cs with
    | [] => true
    | '/' :: _ =>
      match passComments false cs with
      | .slash => false
      | .reached newLine r =>
        if newLine && afterWord && r.head? != some ',' && r.head? != some '=' then true
        else onLine r
    | _ => onLine cs

/-- May a statement end before this text?  After a phrase that no operator may follow, a
comment with the end of a line is enough. -/
def endsBefore (afterWord : Bool) (cs : List Char) : Bool :=
  endsWithin afterWord cs cs

/-- The place where a statement ends without a semicolon: this one, or the end of a comment
that follows. -/
private def endWithin (afterWord : Bool) : List Char → Cursor → Option Cursor
  | [], c => if c.rest.isEmpty then some c else none
  | _ :: fuel, c =>
    if endsBefore afterWord c.rest then some c
    else c.skipSpace.skipComment?.bind (endWithin afterWord fuel)

/-- Read the end of a statement that has no semicolon. -/
def noSemicolon (afterWord : Bool) : Read Unit := fun c =>
  (endWithin afterWord c.rest c).map fun c => ((), c)

/-- Read the end of a statement. -/
def finish (afterWord : Bool) : Read Unit :=
  noSemicolon afterWord <|> token ";"

end Script

end DocPages

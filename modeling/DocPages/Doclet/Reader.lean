import DocPages.Comment
import DocPages.Doclet.Basic
import DocPages.Doclet.Braced
import DocPages.Doclet.Gutter
import DocPages.Text.Word
import DocPages.TypeExpr.Reader

/-!
# Reading doc comments

`Doclet.read` reads the text of a doc comment.  The lines before the first tag are the
description; a tag goes from its line to the line before the next tag.  Tags of parameters
and properties are read as a type, a name and a description, tags of results as a type and a
description, and the text of any other tag is its description.
-/

namespace DocPages

/-- Why a comment is no doc comment. -/
inductive CommentError where
  | type (e : TypeExpr.ReadError)
  | unbalanced (text : String)
  | unclosedName (title : String)
  | missingName (title : String)

/-- What is said of a comment that is no doc comment. -/
def CommentError.message : CommentError → String
  | type e => e.message
  | unbalanced s => "Unbalanced braces in '" ++ s ++ "'"
  | unclosedName title => "Unclosed optional name in @" ++ title
  | missingName title => "Missing name for @" ++ title

namespace Doclet

/-- The titles of tags read as a type, a name and a description. -/
def namedTitles : List String := ["param", "arg", "argument", "property", "prop"]

/-- The titles of tags read as a type and a description. -/
def typedTitles : List String := ["returns", "return", "type", "throws", "typedef"]

/-- A text, unless it is empty. -/
def nonEmpty? (cs : List Char) : Option String :=
  if cs.isEmpty then none else some (String.ofList cs)

/-- The description in a text: without outer blanks and a leading dash, if any is left. -/
def description? (cs : List Char) : Option String :=
  nonEmpty? (match Text.trim cs with
    | '-' :: ' ' :: r => Text.trimLeft r
    | r => r)

/-- The type in braces at the start of a text, and the rest. -/
def splitType (cs : List Char) : Except CommentError (Option TypeExpr × List Char) :=
  match splitBraced cs with
  | .error r => .error (.unbalanced (String.ofList r))
  | .ok (none, r) => .ok (none, r)
  | .ok (some t, r) =>
    match TypeExpr.parse (String.ofList t) with
    | .error e => .error (.type e)
    | .ok t => .ok (some t, r)

/-- The type of an optional parameter. -/
def asOptional : TypeExpr → TypeExpr
  | .optional t => .optional t
  | t => .optional t

/-- A tag read as a type, a name and a description.  A name in brackets, perhaps with a default
after an equals sign, makes the type optional. -/
def readNamedTag (title : String) (cs : List Char) : Except CommentError Tag := do
  let (type, r) ← splitType cs
  let (name, type, r) ← (match Text.trimLeft r with
    | '[' :: r =>
      match Text.splitFirst? [']'] r with
      | none => .error (.unclosedName title)
      | some (inner, r) =>
        .ok (Text.trim (inner.takeWhile (· != '=')), type.map asOptional, r)
    | r => .ok (r.takeWhile (!Text.isBlank ·), type, r.dropWhile (!Text.isBlank ·)))
  if name.isEmpty then .error (.missingName title)
  else
    pure { title, name := some (String.ofList name), type, description := description? r }

/-- A tag with its title and the text after it. -/
def readTag (title : String) (cs : List Char) : Except CommentError Tag :=
  if title ∈ namedTitles then readNamedTag title cs
  else if title ∈ typedTitles then do
    let (type, r) ← splitType cs
    pure { title, type, description := description? r }
  else pure { title, description := nonEmpty? (Text.trim cs) }

/-- The title of the tag that starts on a line, and the rest of the line. -/
def tagStart? (line : List Char) : Option (List Char × List Char) :=
  match Text.trimLeft line with
  | '@' :: r =>
    match r.takeWhile Text.isWord with
    | [] => none
    | title => some (title, r.dropWhile Text.isWord)
  | _ => none

/-- The lines before the first tag, and the lines of each tag with its title. -/
def blocks : List (List Char) → List (List Char) × List (List Char × List (List Char))
  | [] => ([], [])
  | line :: ls =>
    let (before, tags) := blocks ls
    match tagStart? line with
    | some (title, r) => ([], (title, r :: before) :: tags)
    | none => (line :: before, tags)

/-- What the text of a doc comment says, without delimiters and gutters. -/
def readText (cs : List Char) : Except CommentError Doclet := do
  let (before, tagLines) := blocks (Text.lines cs)
  let tags ← tagLines.mapM fun b => readTag (String.ofList b.1) (Text.unlines b.2)
  pure { description := String.ofList (Text.trim (Text.unlines before)), tags }

/-- What a doc comment with its delimiters says. -/
def read (s : String) : Except CommentError Doclet :=
  readText (unwrap s.toList)

/-- What a comment says when it is read as a doc comment. -/
def ofComment (c : Comment) : Except CommentError Doclet :=
  read ("/*" ++ c.value ++ "*/")

end Doclet

end DocPages

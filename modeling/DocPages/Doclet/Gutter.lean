import DocPages.Text.Blank
import DocPages.Text.Search

/-!
# Delimiters and gutters

A doc comment starts with a slash and one or two stars and ends with a star and a slash.  Its
lines may start with a gutter: blanks, a star that no slash follows, and perhaps one space.
`unwrap` removes the delimiters, the gutter of each line, and the blanks at both ends.
-/

namespace DocPages.Doclet

/-- The text without an opening delimiter. -/
def withoutOpening : List Char → List Char
  | '/' :: '*' :: '*' :: cs => cs
  | '/' :: '*' :: cs => cs
  | cs => cs

/-- The text without a closing delimiter. -/
def withoutClosing : List Char → List Char
  | [] => []
  | c :: cs => if c :: cs = ['*', '/'] then [] else c :: withoutClosing cs

/-- The line without its gutter, if it has one. -/
def withoutGutter (line : List Char) : List Char :=
  match Text.trimLeft line with
  | '*' :: '/' :: _ => line
  | '*' :: ' ' :: cs => cs
  | '*' :: cs => cs
  | _ => line

/-- The text of a comment without its delimiters, gutters and outer blanks. -/
def unwrap (cs : List Char) : List Char :=
  let inner := withoutClosing (withoutOpening (Text.trim cs))
  Text.trim (Text.unlines ((Text.lines inner).map withoutGutter))

/-- `unwrap` on strings. -/
def unwrapComment (s : String) : String :=
  String.ofList (unwrap s.toList)

end DocPages.Doclet

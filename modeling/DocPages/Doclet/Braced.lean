import DocPages.Text.Blank

/-!
# Text in braces

`closing` finds the brace that closes an open one, past braces that are opened and closed in
between, and `splitBraced` splits text in braces from the start of a text.
-/

namespace DocPages.Doclet

/-- The text up to the brace that closes an open one, and what follows it; `depth` more braces
have to be closed before. -/
def closing : Nat → List Char → Option (List Char × List Char)
  | _, [] => none
  | depth, c :: cs =>
    if c = '\x7b' then (closing (depth + 1) cs).map fun p => (c :: p.1, p.2)
    else if c = '\x7d' then
      match depth with
      | 0 => some ([], cs)
      | d + 1 => (closing d cs).map fun p => (c :: p.1, p.2)
    else (closing depth cs).map fun p => (c :: p.1, p.2)

/-- The text between the braces at the start of a text, if there are any, and the rest.  An
opening brace that is never closed is an error with the text from it on. -/
def splitBraced (cs : List Char) : Except (List Char) (Option (List Char) × List Char) :=
  match Text.trimLeft cs with
  | '\x7b' :: r =>
    match closing 0 r with
    | some (inner, rest) => .ok (some inner, rest)
    | none => .error ('\x7b' :: r)
  | _ => .ok (none, cs)

end DocPages.Doclet

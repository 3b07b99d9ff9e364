import DocPages.Markup.Atom
import DocPages.Text.Search

/-!
# Tags

A tag starts with `<` and a letter, perhaps after a slash, and ends with `>`.  Inside the value of
an attribute that stands in quotes neither `<` nor `>` means anything.
-/

namespace DocPages.Markup

/-! ### Tags in atoms -/

/-- The atoms up to a quote and the quote, and what follows it. -/
private def throughQuote? (q : Char) : List Atom → Option (List Atom × List Atom)
  | [] => none
  | a :: as =>
    if a.isChar q then some ([a], as)
    else (throughQuote? q as).map fun (inside, rest) => (a :: inside, rest)

/-- The rest of a tag, up to its `>`, and what follows.  After `=` comes a value, which stands in
quotes if a quote follows. -/
private def attributesEnd? : Nat → Bool → List Atom → Option (List Atom × List Atom)
  | 0, _, _ => none
  | _ + 1, _, [] => none
  | fuel + 1, afterEquals, a :: as =>
    let quote := ['"', '\''].find? fun q => afterEquals && a.isChar q
    match quote with
    | some q => do
      let (value, rest) ← throughQuote? q as
      let (more, rest) ← attributesEnd? fuel false rest
      return (a :: value ++ more, rest)
    | none =>
      if a.isChar '>' then some ([a], as)
      else if a.isChar '<' then none
      else (attributesEnd? fuel (a.isChar '=') as).map fun (more, rest) => (a :: more, rest)

/-- The rest of a tag without regard to quotes, up to its `>`, and what follows. -/
private def bracketEnd? (as : List Atom) : Option (List Atom × List Atom) :=
  let body := as.takeWhile fun a => !(a.isChar '<' || a.isChar '>')
  match as.drop body.length with
  | a :: rest => if a.isChar '>' then some (body ++ [a], rest) else none
  | [] => none

/-- The comment up to its end, and what follows. -/
private def commentEnd? : List Atom → Option (List Atom × List Atom)
  | [] => none
  | .char '-' :: .char '-' :: .char '>' :: rest =>
    some ([.char '-', .char '-', .char '>'], rest)
  | a :: as => (commentEnd? as).map fun (more, rest) => (a :: more, rest)

/-- The tag or comment at the start of atoms, and what follows. -/
def inlineTag? (as : List Atom) : Option (List Atom × List Atom) :=
  match as with
  | .char '<' :: .char '!' :: .char '-' :: .char '-' :: rest =>
    (commentEnd? rest).map fun (more, rest) =>
      ([.char '<', .char '!', .char '-', .char '-'] ++ more, rest)
  | .char '<' :: rest => do
    let (slash, rest) := match rest with
      | .char '/' :: r => ([Atom.char '/'], r)
      | r => ([], r)
    let first ← rest.head?
    guard (first.satisfies Char.isAlpha)
    let name := rest.takeWhile fun a => !(['<', '>', '@', ' '].any fun c => a.isChar c)
    let rest := rest.drop name.length
    let (more, rest) ← match rest with
      | .char ' ' :: _ =>
        (attributesEnd? (rest.length + 1) false rest).or (bracketEnd? rest)
      | .char '>' :: rest => some ([Atom.char '>'], rest)
      | _ => none
    return (.char '<' :: slash ++ name ++ more, rest)
  | _ => none

/-! ### Tags in characters -/

/-- The name of a tag in small letters, is it a closing one, and its characters. -/
structure Tag where
  name : List Char
  isClosing : Bool
  written : List Char

/-- The rest of a tag, up to its `>`, and what follows. -/
private def tagEnd? : Option Char → Bool → List Char → Option (List Char × List Char)
  | _, _, [] => none
  | some q, _, c :: cs =>
    (tagEnd? (if c = q then none else some q) false cs).map fun (more, rest) => (c :: more, rest)
  | none, afterEquals, c :: cs =>
    if c = '>' then some ([c], cs)
    else if afterEquals && (c = '"' || c = '\'') then
      (tagEnd? (some c) false cs).map fun (more, rest) => (c :: more, rest)
    else (tagEnd? none (c == '=') cs).map fun (more, rest) => (c :: more, rest)

/-- The tag at the start of a text, and what follows. -/
def tag? : List Char → Option (Tag × List Char)
  | '<' :: cs => do
    let (slash, cs) := match cs with
      | '/' :: r => (['/'], r)
      | r => ([], r)
    let first ← cs.head?
    guard first.isAlpha
    let name := cs.takeWhile fun c => !(" \t\n\x0c/>".toList.contains c)
    let (more, rest) ← tagEnd? none false (cs.drop name.length)
    return (⟨name.map Char.toLower, !slash.isEmpty, '<' :: slash ++ name ++ more⟩, rest)
  | _ => none

/-- The comment at the start of a text, and what follows. -/
def comment? (cs : List Char) : Option (List Char × List Char) := do
  let opening := "<!--".toList
  let closing := "-->".toList
  let r ← Text.after? opening cs
  let (inside, rest) ← Text.splitFirst? closing r
  return (opening ++ inside ++ closing, rest)

end DocPages.Markup

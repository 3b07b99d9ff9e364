import DocPages.Markup.Atom

/-!
# Anchors and images

A text in brackets with a target in parentheses is an anchor; with an exclamation mark before it,
it is an image.  After the target a title may stand in quotes.  An address in angle brackets is an
anchor as well.
-/

namespace DocPages.Markup

/-- The text up to the bracket that closes those open, and what follows it. -/
private def balanced? (opening closing : Char) :
    Nat → List Atom → Option (List Atom × List Atom)
  | _, [] => none
  | depth, a :: as =>
    if a.isChar closing then
      match depth with
      | 0 => some ([], as)
      | d + 1 => (balanced? opening closing d as).map fun (t, rest) => (a :: t, rest)
    else
      let depth := if a.isChar opening then depth + 1 else depth
      (balanced? opening closing depth as).map fun (t, rest) => (a :: t, rest)

/-- A title after its quote, up to the quote before the closing parenthesis, and what follows the
parenthesis. -/
private def titleEnd? (q : Char) : List Atom → Option (List Atom × List Atom)
  | [] => none
  | a :: as =>
    let after := as.dropWhile fun b => b.isChar ' '
    match a.isChar q, after with
    | true, .char ')' :: rest => some ([], rest)
    | _, _ => (titleEnd? q as).map fun (t, rest) => (a :: t, rest)

/-- The target and the title up to the closing parenthesis, and what follows it. -/
private def titled? : Nat → List Atom → Option (List Atom × List Atom × List Atom)
  | _, [] => none
  | depth, a :: as =>
    if a.isChar ')' && depth == 0 then none
    else
      let title := ['"', '\''].findSome? fun q => if a.isChar q then titleEnd? q as else none
      match title with
      | some (title, rest) => some ([], title, rest)
      | none =>
        let depth :=
          if a.isChar '(' then depth + 1 else if a.isChar ')' then depth - 1 else depth
        (titled? depth as).map fun (target, title, rest) => (a :: target, title, rest)

/-- Where an anchor leads. -/
structure Target where
  address : String
  title : Option String

namespace Target

/-- Atoms as an address. -/
private def addressOf (as : List Atom) : String :=
  Text.strip (Atom.writtenAll as)

/-- The target in parentheses at the start of atoms, and what follows. -/
def read? : List Atom → Option (Target × List Atom)
  | .char '(' :: as =>
    let as := as.dropWhile fun a => a.satisfies Text.isBlank
    match titled? 0 as with
    | some (target, title, rest) =>
      let title := (Text.strip (Atom.writtenAll title)).toList.map fun c =>
        if Text.isBlank c then ' ' else c
      some (⟨addressOf target, some (String.ofList title)⟩, rest)
    | none => (balanced? '(' ')' 0 as).map fun (target, rest) => (⟨addressOf target, none⟩, rest)
  | _ => none

/-- The attributes of an element that has a target. -/
def attributes (t : Target) (name : String) : String :=
  name ++ "=\"" ++ escapeQuoted t.address ++ "\""
    ++ (t.title.map fun s => " title=\"" ++ escapeQuoted s ++ "\"").getD ""

end Target

/-- Anchors, of which the text has been given to the later passes. -/
def anchors : Pass := fun later =>
  Step.everywhere fun before as =>
    match as with
    | .char '[' :: r =>
      if before.any fun a => a.isChar '!' then none
      else do
        let (text, r) ← balanced? '[' ']' 0 r
        let (target, rest) ← Target.read? r
        return ([.nest ("<a " ++ target.attributes "href" ++ ">") (later text) "</a>"], rest)
    | _ => none

/-- Images. -/
def images : Step := fun _ as =>
  match as with
  | .char '!' :: .char '[' :: r => do
    let (text, r) ← balanced? '[' ']' 0 r
    let (target, rest) ← Target.read? r
    return ([.verbatim ("<img alt=\"" ++ escapeQuoted (Atom.writtenAll text) ++ "\" "
      ++ target.attributes "src" ++ " />")], rest)
  | _ => none

/-- Is this an address in the web? -/
def isWebAddress (s : String) : Bool :=
  let lower := s.toLower
  ["http://", "https://", "ftp://", "ftps://"].any fun start => lower.startsWith start

/-- Is this an address of mail? -/
def isMailAddress (s : String) : Bool :=
  let cs := s.toList
  let name := cs.takeWhile (· != '@')
  let host := cs.drop (name.length + 1)
  !name.isEmpty && !host.isEmpty && !(cs.contains ' ') && !(name.contains '!')
    && !(host.contains '@')

/-- The number of a character as a reference. -/
def numericReference (c : Char) : String :=
  "&#" ++ toString c.toNat ++ ";"

/-- The reference by which a character of a mail address is shown. -/
def shownReference (c : Char) : String :=
  if c = '&' then "&amp;" else if c = '"' then "&quot;" else numericReference c

/-- The markup of an address in angle brackets.  Mail addresses are written in references. -/
def addressMarkup? (address : String) : Option String :=
  if isWebAddress address then
    some ("<a href=\"" ++ escapeQuoted address ++ "\">" ++ escapeText address ++ "</a>")
  else if isMailAddress address then
    let mail := (Text.after? "mailto:".toList address.toList).getD address.toList
    some ("<a href=\"" ++ String.join (("mailto:".toList ++ mail).map numericReference) ++ "\">"
      ++ String.join (mail.map shownReference) ++ "</a>")
  else none

/-- Addresses in angle brackets. -/
def addresses : Step := fun _ as =>
  match as with
  | .char '<' :: r =>
    let body := r.takeWhile fun a => !(a.isChar '<' || a.isChar '>')
    match r.drop body.length with
    | .char '>' :: rest =>
      (addressMarkup? (Atom.writtenAll body)).map fun markup => ([.verbatim markup], rest)
    | _ => none
  | _ => none

end DocPages.Markup

import DocPages.Markup.Inline

/-!
# Elements

A description is a tree of elements.  An element has the text before its first child, which is
still to be marked up, and its tail, the text after it in its parent.  `Element.markup` writes an
element, with a line end between blocks.
-/

namespace DocPages.Markup

/-- What an element is. -/
inductive Kind where
  | document
  | paragraph
  | heading (level : Nat)
  | bullets
  | numbers
  | item
  | quote
  | rule
  | code
  deriving DecidableEq, Inhabited

/-- Is the element a list? -/
def Kind.isList : Kind → Bool
  | bullets => true
  | numbers => true
  | _ => false

/-- The name of the element. -/
def Kind.name : Kind → String
  | document => "div"
  | paragraph => "p"
  | heading level => "h" ++ toString level
  | bullets => "ul"
  | numbers => "ol"
  | item => "li"
  | quote => "blockquote"
  | rule => "hr"
  | code => "pre"

/-- An element of a description. -/
structure Element where
  kind : Kind
  text : List Char := []
  children : List Element := []
  tail : List Char := []
  deriving Inhabited

namespace Element

/-- The last child. -/
def lastChild? (e : Element) : Option Element := e.children.getLast?

/-- The element with one more child. -/
def add (e child : Element) : Element :=
  { e with children := e.children ++ [child] }

/-- The element with another last child. -/
def setLast (e child : Element) : Element :=
  { e with children := e.children.dropLast ++ [child] }

/-- The element with a change to its last child, if it has one. -/
def mapLast (f : Element → Element) (e : Element) : Element :=
  match e.lastChild? with
  | some child => e.setLast (f child)
  | none => e

/-- The element with its text in a paragraph, if it has text. -/
def wrapText (e : Element) : Element :=
  if e.text.isEmpty then e
  else { e with text := [], children := { kind := .paragraph, text := e.text } :: e.children }

/-- The element with the tail of its last child in a paragraph, if that has a tail. -/
def wrapTail (e : Element) : Element :=
  match e.lastChild? with
  | some last =>
    if last.tail.isEmpty then e
    else (e.setLast { last with tail := [] }).add
      { kind := .paragraph, text := Text.trimLeft last.tail }
  | none => e

/-! ### Writing -/

/-- Are these atoms white space? -/
private def areBlank (as : List Atom) : Bool :=
  as.all fun a => a.satisfies Text.isBlank

/-- The markup of a text before the first child. -/
def textMarkup (hasChildren : Bool) (as : List Atom) : String :=
  if hasChildren && areBlank as then "\n" else Atom.finishedAll as

/-- The markup of a text after a block. -/
def tailMarkup (as : List Atom) : String :=
  let lead := as.takeWhile fun a => match a with
    | .nest .. => false
    | _ => true
  if areBlank lead then "\n" ++ Atom.finishedAll (as.drop lead.length) else Atom.finishedAll as

/-- The markup between the tags of an element. -/
def between (name content : String) : String :=
  "<" ++ name ++ ">" ++ content ++ "</" ++ name ++ ">"

/-- The markup of a paragraph; one that is just the markup of a block is not wrapped. -/
def paragraphMarkup (as : List Atom) : String :=
  match as with
  | [.done markup _] => if isBlockMarkup markup then markup else between "p" markup
  | as => between "p" (Atom.finishedAll as)

mutual

/-- The markup of an element, without its tail. -/
def markup (stash : Stash) : Element → String
  | ⟨kind, text, children, _⟩ =>
    match kind with
    | .rule => "<hr />"
    | .code =>
      "<pre><code>" ++ escapeText (String.ofList (Text.trimRight text)) ++ "\n</code></pre>"
    | .paragraph => paragraphMarkup (inline stash text)
    | .document => allMarkup stash children
    | kind =>
      between kind.name (textMarkup (!children.isEmpty) (inline stash text)
        ++ allMarkup stash children)
termination_by structural e => e

/-- The markup of some elements, with their tails. -/
def allMarkup (stash : Stash) : List Element → String
  | [] => ""
  | e :: es => markup stash e ++ tailMarkup (inline stash e.tail) ++ allMarkup stash es
termination_by structural es => es

end

end Element

end DocPages.Markup

import DocPages.Script.Cover

/-!
# Functions, classes and objects

Readers of functions and of the members of classes and objects.  The words `static`, `async`,
`get` and `set` may stand before the name of a member, or be its name; `memberMarks` tells which
by what follows them.
-/

namespace DocPages

namespace Script

/-! ### Functions -/

/-- Read the parameters and the body of a function. -/
def functionRest (g : Grammar) : Read (List Concrete) := do
  let params ← formalParameters g
  let body ← block g
  return [inField "parameters" params, inField "body" body]

/-- Read a function that starts with the word for it.  The kind of the phrase depends on
whether it is a generator. -/
def functionAs (g : Grammar) (plain generator : String) (name : Read (List Concrete)) :
    Read Concrete := do
  let start ← here
  let _ ← perhaps (word "async")
  word "function"
  let star ← perhaps (token "*")
  let name ← name
  let rest ← functionRest g
  return phrase (if star.isSome then generator else plain) start (← mark)
    (name.map (inField "name") ++ rest)

/-- Read a name that may be left out. -/
def perhapsName : Read (List Concrete) :=
  return (← perhaps identifier).toList

/-- Read a name that may not be left out. -/
def oneName : Read (List Concrete) :=
  return [← identifier]

/-! ### Names of members -/

/-- Read the name of a property. -/
def propertyName (g : Grammar) : Read Concrete := do
  match (← ahead).head? with
  | some '[' => (← Bracketed.read g "[" "]").computedName
  | some '#' => privateName
  | some c =>
    if c == '"' || c == '\'' then stringLiteral
    else if c.isDigit || c == '.' then number
    else propertyIdentifier
  | none => failure

/-- Words and signs that may stand before the name of a member, in their order. -/
def memberMarkWords : List (List String) := [["static"], ["async"], ["get", "set", "*"]]

/-- Does the name before this place end a member or go on with its value, its parameters or its
default?  Fields of a class may end as statements do. -/
def nameEnds (inClass : Bool) : Read Bool := do
  if inClass then
    if ← follows (noSemicolon true) then return true
  match (← ahead).head? with
  | none => return true
  | some c => return "(=;:,\x7d".toList.contains c

/-- The number of characters of the words `static get`, if a line ends after them. -/
def staticGetLength? (cs : List Char) : Option Nat := do
  let blanks (r : List Char) : List Char := r.takeWhile isSpace
  let r ← Text.after? "static".toList cs
  let between := blanks r
  let r ← Text.after? "get".toList (r.drop between.length)
  let after := ((blanks r).reverse.dropWhile (· != '\n')).reverse
  if between.isEmpty || after.isEmpty then none
  else some (9 + between.length + after.length)

/-- Read the words and signs before the name of a member. -/
def memberMarks (inClass : Bool) : List (List String) → Read (List String)
  | [] => return []
  | marks :: later => do
    let cs ← ahead
    let mark := if cs.head? == some '*' then "*" else nameOf cs
    if !marks.contains mark then memberMarks inClass later
    else if mark = "*" then
      token mark
      return mark :: (← memberMarks inClass later)
    else
      let before ← get
      match (if mark = "static" then staticGetLength? cs else none) with
      | some n =>
        modify Cursor.skip
        pass n
        return mark :: "get" :: (← memberMarks inClass later)
      | none =>
        word mark
        if ← nameEnds inClass then
          set before
          return []
        else return mark :: (← memberMarks inClass later)

/-- Read the rest of a method after its name. -/
def methodRest (g : Grammar) (start : Mark) (name : Concrete) : Read Concrete := do
  let rest ← functionRest g
  return phrase "method_definition" start (← mark) (inField "name" name :: rest)

/-! ### Classes -/

/-- Read the rest of a field of a class after its name, the end of the field included. -/
def fieldRest (g : Grammar) (start : Mark) (name : Concrete) : Read Concrete := do
  let children := [inField "property" name]
  if ← follows (finish true) then
    let stop ← mark
    finish true
    return phrase "field_definition" start stop children
  else
    assignSign
    let value ← g.expression { mayEnd := true }
    let stop ← mark
    finish false
    return phrase "field_definition" start stop (children ++ [inField "value" value])

/-- Read one member of a class. -/
def classMember (g : Grammar) : Read (List Concrete) := do
  let start ← here
  if ← aheadIs ";" then
    token ";"
    return []
  else
    let marks ← memberMarks true memberMarkWords
    if marks = ["static"] && (← aheadIs "\x7b") then
      let body ← block g
      let b := phrase "class_static_block" start (← mark) [inField "body" body]
      return [inField "member" b]
    else
      let name ← propertyName g
      let onlyMethod := marks.any (· != "static")
      if !onlyMethod && ((← follows (noSemicolon true)) || !(← aheadIs "(")) then
        return [inField "member" (← fieldRest g start name)]
      else
        let m ← methodRest g start name
        let _ ← perhaps (token ";")
        return [inField "member" m]

/-- Read a class after the word for it. -/
def classRest (g : Grammar) : Read (List Concrete) := do
  let heritage ← perhaps (node "class_heritage" do
    word "extends"
    return [← g.expression {}])
  let body ← node "class_body" do
    token "\x7b"
    let members ← many (do
      ensure (!(← aheadIs "\x7d"))
      classMember g)
    token "\x7d"
    return members.flatten
  return heritage.toList ++ [inField "body" body]

/-- Read a class, whose name a reader gives. -/
def classAs (g : Grammar) (kind : String) (name : Read (List Concrete)) : Read Concrete :=
  node kind do
    word "class"
    let name ← name
    return name.map (inField "name") ++ (← classRest g)

/-! ### Objects -/

/-- The readings of a name that stands for a property and its value. -/
def shorthand (name : Concrete) : Cover :=
  let as (kind : String) : Concrete := phrase kind (startOf name) (stopOf name) []
  { value? := some (as "shorthand_property_identifier")
    target? := some (as "shorthand_property_identifier_pattern") }

/-- Read the default of what is bound by an item of an object. -/
def defaultOf (g : Grammar) (left : Concrete) : Read Cover := do
  assignSign
  let right ← g.expression {}
  let p := phrase "object_assignment_pattern" (startOf left) (← mark)
    [inField "left" left, inField "right" right]
  return { value? := none, target? := some p }

/-- Read the value of a property after its name. -/
def pairRest (g : Grammar) (name : Concrete) : Read Cover := do
  token ":"
  let c ← g.cover {}
  let stop ← mark
  let close (kind : String) (value : Concrete) : Concrete :=
    phrase kind (startOf name) stop [inField "key" name, inField "value" value]
  return { value? := c.value?.map (close "pair"), target? := c.bound?.map (close "pair_pattern") }

/-- Read an item of an object after its name, which starts with no mark. -/
def itemRest (g : Grammar) (start : Mark) (name : Concrete) : Read Cover := do
  match (← ahead).head? with
  | some '(' => return { value? := some (← methodRest g start name) }
  | some ':' => pairRest g name
  | _ => failure

/-- Read one item of an object. -/
def objectItem (g : Grammar) : Read Cover := do
  let start ← here
  match (← get).rest with
  | '.' :: '.' :: _ => listItem g
  | '\x7b' :: _ =>
    -- A pattern with a default, which is read as an assignment.
    match (← g.cover {}).bound? with
    | some (.node l children) =>
      ensure (l.kind == "assignment_pattern")
      return { value? := none
               target? := some (.node { l with kind := "object_assignment_pattern" } children) }
    | none => failure
  | '[' :: _ =>
    let b ← Bracketed.read g "[" "]"
    if ← follows assignSign then defaultOf g (← given b.array.target?)
    else itemRest g start (← b.computedName)
  | _ =>
    let marks ← memberMarks false memberMarkWords
    let word_ ← nextWord
    let name ← propertyName g
    if !marks.isEmpty then return { value? := some (← methodRest g start name) }
    else
      match (← ahead).head? with
      | some '(' | some ':' => itemRest g start name
      | _ =>
        ensure (word_ != "" && !reservedWords.contains word_)
        let c := shorthand name
        if ← follows assignSign then defaultOf g (← given c.target?) else return c

/-- Read an object, or a pattern for one. -/
def object (g : Grammar) : Read Cover := do
  let start ← here
  token "\x7b"
  let items ← looseList (objectItem g)
  token "\x7d"
  return .ofItems start (← mark) "object" "object_pattern" (items.mapM (·.value?))
    (items.mapM (·.target?))

/-- Read an array, or a pattern for one. -/
def array (g : Grammar) : Read Cover := do
  return (← Bracketed.read g "[" "]").array

/-- Read a name or a pattern that names are bound by. -/
def binding (g : Grammar) : Read Concrete := do
  match (← ahead).head? with
  | some '[' => given (← array g).target?
  | some '\x7b' => given (← object g).target?
  | _ => identifier

end Script

end DocPages

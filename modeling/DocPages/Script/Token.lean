import DocPages.Script.Cursor
import DocPages.Text.Hex

/-!
# Words and literals of scripts

Readers of names, numbers, texts between quotes and regular expressions.
-/

namespace DocPages

namespace Script

/-- Characters of names other than escapes and digits. -/
def isNameStart (c : Char) : Bool :=
  !(isSpace c || c.toNat < 0x20 || c.isDigit
    || ":;`\"'@#.,|^&<=>+-*/\\%?!~()[]\x7b\x7d".toList.contains c)

/-- The number of characters of the escape in a name at the start of a text. -/
def nameEscapeLength : List Char → Nat
  | '\\' :: 'u' :: '\x7b' :: r =>
    let digits := r.takeWhile fun c => (Text.hexValue? c).isSome
    match digits, r.drop digits.length with
    | _ :: _, '\x7d' :: _ => digits.length + 4
    | _, _ => 0
  | '\\' :: 'u' :: a :: b :: c :: d :: _ =>
    if [a, b, c, d].all fun x => (Text.hexValue? x).isSome then 6 else 0
  | _ => 0

/-- The number of characters that may go on with a name, for a text no longer than another one. -/
private def nameLengthWithin : List Char → List Char → Nat
  | [], _ => 0
  | _ :: fuel, cs =>
    match cs with
    | [] => 0
    | c :: r =>
      if isNameStart c || c.isDigit then nameLengthWithin fuel r + 1
      else
        match nameEscapeLength cs with
        | 0 => 0
        | n => n + nameLengthWithin fuel (cs.drop n)

/-- The number of characters of the name at the start of a text; zero if there is none. -/
def nameLength (cs : List Char) : Nat :=
  match cs with
  | [] => 0
  | c :: _ => if c.isDigit then 0 else nameLengthWithin cs cs

/-- The name at the start of a text. -/
def nameOf (cs : List Char) : String :=
  String.ofList (cs.take (nameLength cs))

/-- Words that are no names. -/
def reservedWords : List String :=
  ["break", "case", "catch", "class", "const", "continue", "debugger", "default", "delete", "do",
    "else", "extends", "export", "false", "finally", "for", "function", "if", "import", "in",
    "instanceof", "new", "null", "return", "super", "switch", "this", "throw", "true", "try",
    "typeof", "var", "void", "while", "with", "await"]

/-- The word that comes next, not read; empty if something else does. -/
def nextWord : Read String :=
  return nameOf (← ahead)

/-- Read a given word. -/
def word (s : String) : Read Unit := do
  modify Cursor.skip
  ensure (nameOf (← get).rest == s)
  pass s.length

/-- Read any word and give its text. -/
def anyWord : Read String := do
  modify Cursor.skip
  let name := nameOf (← get).rest
  ensure (name != "")
  pass name.length
  return name

/-- Read a name as a phrase of a kind. -/
def nameAs (kind : String) : Read Concrete :=
  node kind do
    ensure (!reservedWords.contains (← anyWord))
    return []

/-- Read a name. -/
def identifier : Read Concrete := nameAs "identifier"

/-- Read a name that starts with a number sign. -/
def privateName : Read Concrete :=
  node "private_property_identifier" do
    token "#"
    let n := nameLength (← get).rest
    ensure (n != 0)
    pass n
    return []

/-- Read any word as the name of a property. -/
def propertyIdentifier : Read Concrete :=
  node "property_identifier" do
    let _ ← anyWord
    return []

/-! ### Numbers -/

/-- The number of characters that go on with digits. -/
private def digitsWithin (isDigit : Char → Bool) : List Char → Nat
  | [] => 0
  | '_' :: c :: r => if isDigit c then 2 + digitsWithin isDigit r else 0
  | c :: r => if isDigit c then 1 + digitsWithin isDigit r else 0

/-- The number of characters of the digits at the start of a text, single low lines between
them. -/
def digitsLength (isDigit : Char → Bool) (cs : List Char) : Nat :=
  match cs with
  | '_' :: _ => 0
  | cs => digitsWithin isDigit cs

/-- The number of characters of the exponent at the start of a text. -/
def exponentLength : List Char → Nat
  | e :: r =>
    if e = 'e' || e = 'E' then
      let sign := match r with
        | '+' :: _ | '-' :: _ => 1
        | _ => 0
      match digitsLength Char.isDigit (r.drop sign) with
      | 0 => 0
      | n => 1 + sign + n
    else 0
  | [] => 0

/-- The length of a number together with the mark of a big one. -/
private def withBigMark (n : Nat) (cs : List Char) : Nat :=
  match cs.drop n with
  | 'n' :: _ => n + 1
  | _ => n

/-- The length of a number from its digits in a base, the two characters before them included. -/
private def basedLength (isDigit : Char → Bool) (cs : List Char) : Nat :=
  match digitsLength isDigit cs with
  | 0 => 0
  | n => withBigMark (n + 2) ('0' :: 'x' :: cs)

/-- The length of a decimal number. -/
private def decimalLength (cs : List Char) : Nat :=
  let whole := digitsLength Char.isDigit cs
  match cs.drop whole with
  | '.' :: r =>
    let fraction := digitsLength Char.isDigit r
    if whole = 0 && fraction = 0 then 0
    else
      let n := whole + 1 + fraction
      n + exponentLength (cs.drop n)
  | r =>
    if whole = 0 then 0
    else
      match exponentLength r with
      | 0 => withBigMark whole cs
      | n => whole + n

/-- The number of characters of the number at the start of a text; zero if there is none. -/
def numberLength (cs : List Char) : Nat :=
  let based := match cs with
    | '0' :: b :: r =>
      if b = 'x' || b = 'X' then basedLength (fun c => (Text.hexValue? c).isSome) r
      else if b = 'o' || b = 'O' then basedLength (fun c => '0' ≤ c && c ≤ '7') r
      else if b = 'b' || b = 'B' then basedLength (fun c => c == '0' || c == '1') r
      else 0
    | _ => 0
  if based = 0 then decimalLength cs else based

/-- Read a literal whose length at the start of a text is given. -/
def literal (kind : String) (length : List Char → Nat) : Read Concrete :=
  node kind do
    let n := length (← get).rest
    ensure (n != 0)
    pass n
    return []

/-- Read a number. -/
def number : Read Concrete := literal "number" numberLength

/-! ### Texts between quotes -/

/-- The number of characters of the escape that follows a backslash. -/
def escapeLength (cs : List Char) : Nat :=
  let hex (c : Char) : Bool := (Text.hexValue? c).isSome
  match cs with
  | [] => 0
  | 'x' :: a :: b :: _ => if hex a && hex b then 3 else 0
  | 'u' :: '\x7b' :: r =>
    let n := (r.takeWhile hex).length
    match n, r.drop n with
    | 0, _ => 0
    | n, '\x7d' :: _ => n + 3
    | _, _ => 0
  | 'u' :: a :: b :: c :: d :: _ => if [a, b, c, d].all hex then 5 else 0
  | 'x' :: _ | 'u' :: _ => 0
  | '\r' :: '\n' :: _ => 2
  | _ => 1

/-- The number of characters up to a closing quote, for a text no longer than another one. -/
private def quotedLengthWithin (quote : Char) : List Char → List Char → Option Nat
  | [], _ => none
  | _ :: fuel, cs =>
    match cs with
    | [] => none
    | '\\' :: r =>
      match escapeLength r with
      | 0 => none
      | n => (quotedLengthWithin quote fuel (r.drop n)).map (n + 1 + ·)
    | c :: r =>
      if c = quote then some 1
      else if c = '\n' || c = '\r' then none
      else (quotedLengthWithin quote fuel r).map (1 + ·)

/-- The number of characters of the text between quotes at the start of a text; zero if there
is none. -/
def stringLength : List Char → Nat
  | q :: r =>
    if q = '"' || q = '\'' then ((quotedLengthWithin q r r).map (1 + ·)).getD 0
    else 0
  | [] => 0

/-- Read a text between quotes. -/
def stringLiteral : Read Concrete := literal "string" stringLength

/-! ### Regular expressions -/

/-- The number of characters up to the slash that ends a regular expression, in or out of a
class of characters. -/
private def regexBodyLength : Bool → List Char → Option Nat
  | _, [] => none
  | inClass, '\\' :: c :: r =>
    if c = '\n' then none else (regexBodyLength inClass r).map (2 + ·)
  | inClass, c :: r =>
    if c = '\n' || c = '\\' then none
    else if inClass then (regexBodyLength (c != ']') r).map (1 + ·)
    else if c = '/' then some 0
    else (regexBodyLength (c == '[') r).map (1 + ·)

/-- The number of characters of the regular expression at the start of a text; zero if there is
none. -/
def regexLength : List Char → Nat
  | '/' :: r =>
    match regexBodyLength false r with
    | none | some 0 => 0
    | some n => n + 2 + ((r.drop (n + 1)).takeWhile fun c => 'a' ≤ c && c ≤ 'z').length
  | _ => 0

/-- Read a regular expression. -/
def regexLiteral : Read Concrete := literal "regex" regexLength

end Script

end DocPages

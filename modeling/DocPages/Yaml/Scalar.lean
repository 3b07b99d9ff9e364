import DocPages.Text.Hex
import DocPages.Value.Basic
import DocPages.Yaml.Moment

/-!
# What scalars stand for

The tag of a scalar says what it stands for: a text, nothing, a truth value, a number or a
moment.  `Tag.ofPlain` is the tag of a plain scalar that has no other, and `Tag.read` the value
of a text under a tag.
-/

namespace DocPages

namespace Yaml

/-- Why a document has no value: it is malformed, a number has no digits at all, or a text that
is called a moment is none. -/
inductive Fault where
  | malformed
  | emptyNumber
  | noMoment
  deriving DecidableEq, Inhabited

/-- What is said of a document without a value. -/
def Fault.message : Fault → String
  | malformed => "The document is malformed"
  | emptyNumber => "string index out of range"
  | noMoment => "'NoneType' object has no attribute 'groupdict'"

namespace Tag

/-- What the usual tags start with. -/
def start : String := "tag:yaml.org,2002:"

/-- The tag of texts. -/
def text : String := start ++ "str"

/-- The tag of lists. -/
def list : String := start ++ "seq"

/-- The tag of maps. -/
def map : String := start ++ "map"

/-- The tag of nothing. -/
def null : String := start ++ "null"

/-- The tag of truth values. -/
def bool : String := start ++ "bool"

/-- The tag of integers. -/
def int : String := start ++ "int"

/-- The tag of numbers with a point. -/
def float : String := start ++ "float"

/-- The tag of moments. -/
def moment : String := start ++ "timestamp"

/-- The tag of the key under which other maps are merged into a map. -/
def merge : String := start ++ "merge"

/-- The tag of the key that stands for the whole value. -/
def value : String := start ++ "value"

/-! ### Plain scalars -/

/-- Words for truth values. -/
def truthWords : List (String × Bool) :=
  ["yes", "true", "on"].map (·, true) ++ ["no", "false", "off"].map (·, false)

/-- The words with all letters small, the first one large, or all large. -/
def spellings (w : String) : List String :=
  [w, w.capitalize, w.toUpper]

/-- Words for nothing. -/
def nullWords : List String := ["", "~", "null", "Null", "NULL"]

/-- The text without a sign before it. -/
def unsigned : List Char → List Char
  | '-' :: cs | '+' :: cs => cs
  | cs => cs

/-- A digit or a low line. -/
def isSpacedDigit (c : Char) : Bool := c.isDigit || c == '_'

/-- Are the characters, at least one, all of a class? -/
def allOf (p : Char → Bool) (cs : List Char) : Bool := !cs.isEmpty && cs.all p

/-- Are the parts numbers below sixty of one or two digits? -/
def areSixtieths (parts : List (List Char)) : Bool :=
  parts.all fun p =>
    match p with
    | [a] => a.isDigit
    | [a, b] => '0' ≤ a && a ≤ '5' && b.isDigit
    | _ => false

/-- Does a text without its sign write an integer? -/
def writesNatural (cs : List Char) : Bool :=
  match cs with
  | '0' :: 'b' :: ds => allOf (fun c => c == '0' || c == '1' || c == '_') ds
  | '0' :: 'x' :: ds => allOf (fun c => (Text.hexValue? c).isSome || c == '_') ds
  | ['0'] => true
  | '0' :: ds => allOf (fun c => ('0' ≤ c && c ≤ '7') || c == '_') ds
  | c :: _ =>
    match cs.splitOn ':' with
    | first :: more => c.isDigit && first.all isSpacedDigit && areSixtieths more
    | [] => false
  | [] => false

/-- Is the text empty or an exponent? -/
def isExponent : List Char → Bool
  | [] => true
  | e :: sign :: ds =>
    (e == 'e' || e == 'E') && (sign == '+' || sign == '-') && allOf Char.isDigit ds
  | _ => false

/-- Does a text without its sign write a number with a point?  Some forms have no sign. -/
def writesReal (signed : Bool) (cs : List Char) : Bool :=
  let whole := cs.takeWhile fun c => isSpacedDigit c || c == ':'
  match cs.drop whole.length with
  | '.' :: r =>
    let fraction := r.takeWhile isSpacedDigit
    let rest := r.drop fraction.length
    match whole.splitOn ':' with
    | [] => false
    | [[]] =>
      ["inf", "Inf", "INF"].contains (String.ofList r)
        || (!signed && (["nan", "NaN", "NAN"].contains (String.ofList r)
          || (fraction.head?.any Char.isDigit && isExponent rest)))
    | first :: more =>
      first.head?.any Char.isDigit && first.all isSpacedDigit && areSixtieths more
        && (if more.isEmpty then isExponent rest else rest.isEmpty)
  | _ => false

/-- The tag of a plain scalar. -/
def ofPlain (cs : List Char) : String :=
  let s := String.ofList cs
  let body := unsigned cs
  if truthWords.any fun w => (spellings w.1).contains s then bool
  else if writesReal (body.length != cs.length) body then float
  else if writesNatural body then int
  else if s == "<<" then merge
  else if nullWords.contains s then null
  else if Moment.isImplicit cs then moment
  else if s == "=" then value
  else text

/-! ### Values -/

/-- The text without low lines. -/
def withoutLowLines (cs : List Char) : List Char := cs.filter (· != '_')

/-- The number that digits of a base write. -/
def digits? (base : Nat) (cs : List Char) : Option Nat :=
  if !cs.isEmpty && cs.all fun c => (Text.hexValue? c).any fun n => n < base then
    some (cs.foldl (fun n c => base * n + (Text.hexValue? c).getD 0) 0)
  else none

/-- The greatest number of decimal digits that are read as a number. -/
def maxDigits : Nat := 4300

/-- The number that a text without its sign and without low lines writes. -/
def natural? (cs : List Char) : Option Nat :=
  let decimal? (cs : List Char) : Option Nat :=
    if maxDigits < cs.length then none else digits? 10 cs
  match cs with
  | ['0'] => some 0
  | '0' :: 'b' :: ds => digits? 2 ds
  | '0' :: 'x' :: ds => digits? 16 ds
  | '0' :: ds => digits? 8 ('0' :: ds)
  | cs =>
    (cs.splitOn ':').foldl (fun acc part =>
      match acc, decimal? part with
      | some n, some m => some (60 * n + m)
      | _, _ => none) (some 0)

/-- The number with a point that a text without sign writes: digits, perhaps a point among them,
and perhaps an exponent. -/
def decimal? (cs : List Char) : Option Binary64 :=
  let whole := cs.takeWhile Char.isDigit
  let rest := cs.drop whole.length
  let (fraction, rest) := match rest with
    | '.' :: r => (r.takeWhile Char.isDigit, r.dropWhile Char.isDigit)
    | r => ([], r)
  let exponent? : Option Int := match rest with
    | [] => some 0
    | e :: r =>
      if e == 'e' || e == 'E' then
        match r with
        | '-' :: ds => (digits? 10 ds).map fun n => - (n : Int)
        | '+' :: ds | ds => (digits? 10 ds).map fun n => (n : Int)
      else none
  match digits? 10 (whole ++ fraction), exponent? with
  | some n, some e => some (.ofDecimal false n (e - fraction.length))
  | _, _ => none

/-- The sum of the parts between colons, each sixty times the one after it. -/
def sexagesimal? (parts : List (List Char)) : Option Binary64 :=
  (parts.reverse.foldl (fun (acc : Option Binary64 × Nat) part =>
    (match acc.1, decimal? part with
      | some sum, some x => some (Binary64.addScaled x acc.2 sum)
      | _, _ => none, 60 * acc.2)) (some (.finite false 0 (-1074)), 1)).1

/-- The number with a point that a text without its sign and without low lines writes. -/
def real? (cs : List Char) : Option Binary64 :=
  let word := (String.ofList cs).toLower
  if word == ".inf" then some (.infinite false)
  else if word == ".nan" then some .nan
  else
    match cs.splitOn ':' with
    | [cs] => decimal? cs
    | parts => sexagesimal? parts

/-- The value of a text under a tag. -/
def read (tag text : String) : Except Fault Value :=
  let orMalformed : Option Value → Except Fault Value
    | some v => .ok v
    | none => .error .malformed
  if tag == Tag.text then .ok (.text text)
  else if tag == null then .ok .null
  else if tag == bool then orMalformed ((truthWords.lookup text.toLower).map .bool)
  else if tag == int || tag == float then
    let digits := withoutLowLines text.toList
    let negative := digits.head? == some '-'
    if digits.isEmpty then .error .emptyNumber
    else if tag == int then
      orMalformed ((natural? (unsigned digits)).map fun n =>
        .int (if negative then - (n : Int) else n))
    else orMalformed ((real? (unsigned digits)).map fun x => .float (x.negateIf negative))
  else if tag == moment then
    match Moment.parts? text.toList with
    | none => .error .noMoment
    | some (m, _) => if m.exists_ then .ok (.shown m.shown) else .error .malformed
  else .error .malformed

end Tag

end Yaml

end DocPages

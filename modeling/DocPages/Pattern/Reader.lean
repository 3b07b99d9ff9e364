import DocPages.Pattern.Basic
import DocPages.Text.Hex
import DocPages.Text.Identifier
import DocPages.Text.Search

/-!
# Reading patterns

`Pattern.parse` reads a regular expression.  It is read by tokens, so that a character behind a
backslash never ends what it stands in.  The reader knows the groups that came before, since a
number or a name may refer to them, and the flags in force, since they change what characters
stand for.  What looks behind must have a fixed width, so the widths of what is read are kept.
A few faults are only found when everything has been read.

A character may be given by its name.  Names are looked up in a table that is handed to the
reader.
-/

namespace DocPages

namespace Pattern

/-- Why a text is no pattern: it is malformed, or a number of repetitions is too large. -/
inductive PatternError where
  | malformed
  | tooManyRepeats
  deriving DecidableEq, Inhabited

/-- What is said of a text that is no pattern. -/
def PatternError.message : PatternError → String
  | malformed => "The pattern is malformed"
  | tooManyRepeats => "the repetition number is too large"

/-- The text is no pattern. -/
private def malformed {α : Type} : Except PatternError α := .error .malformed

/-! ### Tokens -/

/-- A token of a pattern: a character, a character behind a backslash, or a backslash that
nothing follows. -/
inductive Token where
  | plain (c : Char)
  | escaped (c : Char)
  | dangling
  deriving DecidableEq, Inhabited

/-- The text of a token. -/
def Token.text : Token → List Char
  | plain c => [c]
  | escaped c => ['\\', c]
  | dangling => ['\\']

/-- The tokens of a text. -/
def tokens : List Char → List Token
  | [] => []
  | ['\\'] => [.dangling]
  | '\\' :: c :: cs => .escaped c :: tokens cs
  | c :: cs => .plain c :: tokens cs

/-- The characters of a class at the start, at most `n` of them, and what follows. -/
private def takeChars (isIn : Char → Bool) : Nat → List Token → List Char × List Token
  | n + 1, .plain c :: ts =>
    if isIn c then
      let (cs, ts) := takeChars isIn n ts
      (c :: cs, ts)
    else ([], .plain c :: ts)
  | _, ts => ([], ts)

/-- All characters of a class at the start, and what follows. -/
private def spanChars (isIn : Char → Bool) (ts : List Token) : List Char × List Token :=
  takeChars isIn ts.length ts

/-- The text up to a character that ends it, and what follows; there must be some text. -/
private def upTo (c : Char) (ts : List Token) : Except PatternError (List Char × List Token) :=
  match ts.dropWhile (· != .plain c) with
  | [] => malformed
  | _ :: rest =>
    let name := ts.takeWhile (· != .plain c)
    if name.isEmpty then malformed else .ok (name.flatMap Token.text, rest)

/-- What follows a comment in parentheses. -/
private def afterComment (ts : List Token) : Except PatternError (List Token) :=
  match ts.dropWhile (· != .plain ')') with
  | [] => malformed
  | _ :: rest => .ok rest

/-- What follows a comment that ends with its line. -/
private def afterLine : List Token → List Token
  | [] => []
  | [.dangling] => [.dangling]
  | t :: ts => if t == .plain '\n' then ts else afterLine ts

/-- The number that digits of a base write. -/
private def number (base : Nat) (ds : List Char) : Nat :=
  ds.foldl (fun n d => base * n + (Text.hexValue? d).getD 0) 0

/-- The number of digits that are read as a number. -/
private def digitLimit : Nat := 4300

/-! ### Flags -/

/-- Flags in force. -/
structure Flags where
  anyCase : Bool := false
  multiline : Bool := false
  dotAll : Bool := false
  verbose : Bool := false
  ascii : Bool := false
  unicode : Bool := false
  template : Bool := false
  deriving DecidableEq, Inhabited

namespace Flags

/-- What the letters of a pattern stand for. -/
def letters (f : Flags) : LetterCase :=
  if !f.anyCase then .exact else if f.ascii then .ascii else .every

/-- The flags with those of some letters set and those of others not. -/
def switch (f : Flags) (on off : List Char) : Flags :=
  let set (value : Bool) (c : Char) : Bool := (value || on.contains c) && !off.contains c
  { anyCase := set f.anyCase 'i'
    multiline := set f.multiline 'm'
    dotAll := set f.dotAll 's'
    verbose := set f.verbose 'x'
    ascii := set f.ascii 'a'
    unicode := set f.unicode 'u'
    template := set f.template 't' }

/-- The flags within a group that switches flags.  The set of characters is chosen anew. -/
def within (f : Flags) (on off : List Char) : Flags :=
  let chosen := on.contains 'a' || on.contains 'u'
  { f with ascii := f.ascii && !chosen, unicode := f.unicode && !chosen }.switch on off

/-- Do blanks stand for nothing here? -/
def skips (f : Flags) (c : Char) : Bool :=
  f.verbose && isAsciiBlank c

end Flags

/-- The letters of flags that a group switches on and off, the character after them and what
follows it.  The flag of locales is not for texts, that of templates is only for a whole pattern,
and those that choose the set of characters are never switched off. -/
private def switches (ts : List Token) :
    Except PatternError (List Char × List Char × Char × List Token) :=
  let isFlag (c : Char) : Bool := "iLmsxatu".toList.contains c
  let (on, rest) := spanChars isFlag ts
  if on.contains 'L' || (on.contains 'a' && on.contains 'u') then malformed
  else
    match rest with
    | .plain ')' :: rest => if on.isEmpty then malformed else .ok (on, [], ')', rest)
    | .plain ':' :: rest =>
      if on.isEmpty || on.contains 't' then malformed else .ok (on, [], ':', rest)
    | .plain '-' :: rest =>
      let (off, rest) := spanChars isFlag rest
      match rest with
      | .plain ':' :: rest =>
        if off.isEmpty || on.contains 't' || (off.any fun c => "aLtu".toList.contains c)
            || off.any on.contains then malformed
        else .ok (on, off, ':', rest)
      | _ => malformed
    | _ => malformed

/-- The flags for the whole pattern, which stand at its start, and what follows them. -/
private def globalFlags : Nat → Flags → List Token → Except PatternError (Flags × List Token)
  | 0, flags, ts => .ok (flags, ts)
  | fuel + 1, flags, ts =>
    match ts with
    | .plain '(' :: .plain '?' :: .plain '#' :: rest => do
      globalFlags fuel flags (← afterComment rest)
    | .plain '(' :: .plain '?' :: rest =>
      match switches rest with
      | .ok (on, _, ')', rest) => globalFlags fuel (flags.switch on []) rest
      | _ => .ok (flags, ts)
    | .plain c :: rest =>
      if flags.skips c then globalFlags fuel flags rest
      else if flags.verbose && c == '#' then globalFlags fuel flags (afterLine rest)
      else .ok (flags, ts)
    | _ => .ok (flags, ts)

/-! ### Items -/

/-- The fewest and the most characters that an expression takes. -/
structure Width where
  least : Nat
  most : Option Nat
  deriving DecidableEq, Inhabited

namespace Width

/-- The width of a fixed number of characters. -/
def exactly (n : Nat) : Width := ⟨n, some n⟩

/-- The width of one expression after another. -/
def add (a b : Width) : Width :=
  ⟨a.least + b.least, a.most.bind fun x => b.most.map fun y => x + y⟩

/-- The width of one expression or another. -/
def join (a b : Width) : Width :=
  ⟨min a.least b.least, a.most.bind fun x => b.most.map fun y => max x y⟩

/-- The width of a repeated expression. -/
def times (a : Width) (least : Nat) (most : Option Nat) : Width :=
  ⟨a.least * least, match a.most, most with
    | some 0, _ | _, some 0 => some 0
    | some x, some n => some (x * n)
    | _, _ => none⟩

/-- The width of what can be looked behind for: it is fixed, and not too large. -/
def fixed? (a : Width) : Option Nat :=
  if a.most == some a.least && a.least ≤ 4294967295 then some a.least else none

end Width

/-- What an item is to what follows it: a place that cannot be repeated, something that is repeated
already, or anything else. -/
inductive ItemKind where
  | place
  | repeated
  | plain
  deriving DecidableEq, Inhabited

/-- An item of a sequence. -/
structure Item where
  node : Node
  width : Width
  kind : ItemKind := .plain
  deriving Inhabited

/-- What has been read: the number of groups, the names of groups, the widths of those that are
closed, the groups that are referred to, those of them that need not be read yet, the number of
groups when the reader started to look behind, and whether a fault has been found that counts
only if everything else can be read. -/
structure Record where
  groups : Nat := 0
  names : List (String × Nat) := []
  closed : List (Nat × Width) := []
  kept : List Nat := []
  pending : List Nat := []
  behind : Option Nat := none
  unfit : Bool := false
  deriving Inhabited

/-- What a reader gives: what it read, what is left, and what has been read so far. -/
abbrev Found (α : Type) := α × List Token × Record

/-- The item that is a character of a set. -/
private def setItem (flags : Flags) (negated : Bool) (classes : List CharClass) : Item :=
  ⟨.char ⟨negated, classes, flags.letters⟩, .exactly 1, .plain⟩

/-- The item that is a place. -/
private def placeItem (a : Anchor) : Item := ⟨.anchor a, .exactly 0, .place⟩

/-- Items in sequence. -/
private def sequence : List Item → Item
  | [] => ⟨.nothing, .exactly 0, .plain⟩
  | [i] => i
  | i :: is =>
    let rest := sequence is
    ⟨.seq i.node rest.node, i.width.add rest.width, .plain⟩

/-! ### Characters and sets -/

/-- A class that a backslash and a letter stand for. -/
private def classEscape? (ascii : Bool) : Char → Option CharClass
  | 'd' => some (.digit ascii)
  | 'D' => some (.other (.digit ascii))
  | 'w' => some (.word ascii)
  | 'W' => some (.other (.word ascii))
  | 's' => some (.blank ascii)
  | 'S' => some (.other (.blank ascii))
  | _ => none

/-- A character that a backslash and a letter stand for. -/
private def charEscape? : Char → Option Char
  | 'n' => some '\n'
  | 't' => some '\t'
  | 'r' => some '\r'
  | 'f' => some '\x0c'
  | 'v' => some '\x0b'
  | 'a' => some '\x07'
  | _ => none

/-- An octal digit. -/
private def isOctal (c : Char) : Bool := '0' ≤ c && c ≤ '7'

/-- The code point that octal digits write, and what follows them. -/
private def octalEscape (ds : List Char) (ts : List Token) :
    Except PatternError (Nat × List Token) :=
  if 0xFF < number 8 ds then malformed else .ok (number 8 ds, ts)

/-- The code point that `n` hexadecimal digits write, and what follows. -/
private def hexEscape (n : Nat) (ts : List Token) : Except PatternError (Nat × List Token) :=
  let (ds, rest) := takeChars (fun c => (Text.hexValue? c).isSome) n ts
  if ds.length == n && number 16 ds ≤ 0x10FFFF then .ok (number 16 ds, rest) else malformed

/-- The code point of the character with the name in braces, and what follows. -/
private def namedEscape (named? : String → Option Char) (ts : List Token) :
    Except PatternError (Nat × List Token) :=
  match ts with
  | .plain '\x7b' :: ts => do
    let (name, rest) ← upTo '\x7d' ts
    match named? (String.ofList name) with
    | some c => .ok (c.toNat, rest)
    | none => malformed
  | _ => malformed

/-- The code point that an escape of one stands for, after the backslash and the character `c`. -/
private def singleEscape (named? : String → Option Char) (c : Char) (ts : List Token) :
    Except PatternError (Nat × List Token) :=
  match charEscape? c with
  | some d => .ok (d.toNat, ts)
  | none =>
    if c == 'x' then hexEscape 2 ts
    else if c == 'u' then hexEscape 4 ts
    else if c == 'U' then hexEscape 8 ts
    else if c == 'N' then namedEscape named? ts
    else if c.isAlphanum then malformed
    else .ok (c.toNat, ts)

/-- What a set holds at the start of a text, and what follows it. -/
private def setClass (named? : String → Option Char) (flags : Flags) :
    List Token → Except PatternError (CharClass × List Token)
  | .escaped c :: ts =>
    match classEscape? flags.ascii c with
    | some k => .ok (k, ts)
    | none =>
      if c == 'b' then .ok (.single 8, ts)
      else do
        let (n, ts) ←
          if isOctal c then
            let (more, ts) := takeChars isOctal 2 ts
            octalEscape (c :: more) ts
          else singleEscape named? c ts
        .ok (.single n, ts)
  | .plain c :: ts => .ok (.single c.toNat, ts)
  | _ => malformed

/-- The range between two characters in order. -/
private def range (a b : CharClass) : Except PatternError CharClass :=
  match a, b with
  | .single lo, .single hi => if lo ≤ hi then .ok (.range lo hi) else malformed
  | _, _ => malformed

/-- The classes of a set up to its closing bracket, which does not come first, and what follows;
the number given is at least that of the tokens. -/
private def setClasses (named? : String → Option Char) (flags : Flags) :
    Nat → Bool → List Token → Except PatternError (List CharClass × List Token)
  | 0, _, _ => malformed
  | fuel + 1, isFirst, ts =>
    match isFirst, ts with
    | false, .plain ']' :: ts => .ok ([], ts)
    | _, ts => do
      let (k, ts) ← setClass named? flags ts
      match ts with
      | .plain '-' :: .plain ']' :: ts => .ok ([k, .single '-'.toNat], ts)
      | .plain '-' :: ts => do
        let (k', ts) ← setClass named? flags ts
        let k ← range k k'
        let (ks, ts) ← setClasses named? flags fuel false ts
        .ok (k :: ks, ts)
      | ts => do
        let (ks, ts) ← setClasses named? flags fuel false ts
        .ok (k :: ks, ts)

/-- The item that a set is, after its opening bracket. -/
private def setAfter (named? : String → Option Char) (flags : Flags) (ts : List Token) :
    Except PatternError (Item × List Token) := do
  let (negated, ts) := match ts with
    | .plain '^' :: ts => (true, ts)
    | ts => (false, ts)
  let (ks, ts) ← setClasses named? flags (ts.length + 1) true ts
  .ok (setItem flags negated ks, ts)

/-! ### References -/

/-- May the group be referred to within what is looked behind for?  It must be closed, and it
must not belong to that. -/
private def Record.allows (r : Record) (n : Nat) : Bool :=
  r.behind.all fun b => (r.closed.lookup n).isSome && n ≤ b

/-- The item that asks for the text of a group again.  The group must be closed. -/
private def reference (flags : Flags) (n : Nat) (ts : List Token) (r : Record) :
    Except PatternError (Found Item) :=
  match r.closed.lookup n with
  | some w =>
    if r.allows n then .ok (⟨.again n flags.letters, w, .plain⟩, ts, { r with kept := n :: r.kept })
    else malformed
  | none => malformed

/-- The item after a backslash and a digit that is not zero: a character in octal digits, or a
reference. -/
private def digitEscape (flags : Flags) (c : Char) (ts : List Token) (r : Record) :
    Except PatternError (Found Item) :=
  match ts with
  | .plain d :: ts' =>
    if d.isDigit then
      match ts' with
      | .plain e :: ts'' =>
        if isOctal c && isOctal d && isOctal e then do
          let (n, ts) ← octalEscape [c, d, e] ts''
          .ok (setItem flags false [.single n], ts, r)
        else reference flags (number 10 [c, d]) ts' r
      | _ => reference flags (number 10 [c, d]) ts' r
    else reference flags (number 10 [c]) ts r
  | _ => reference flags (number 10 [c]) ts r

/-- The item after a backslash and the character `c`. -/
private def escape (named? : String → Option Char) (flags : Flags) (c : Char) (ts : List Token)
    (r : Record) : Except PatternError (Found Item) :=
  match classEscape? flags.ascii c with
  | some k => .ok (setItem flags false [k], ts, r)
  | none =>
    if c == 'A' then .ok (placeItem .textStart, ts, r)
    else if c == 'Z' then .ok (placeItem .textEnd, ts, r)
    else if c == 'b' then .ok (placeItem (.boundary flags.ascii false), ts, r)
    else if c == 'B' then .ok (placeItem (.boundary flags.ascii true), ts, r)
    else if c.isDigit && c != '0' then digitEscape flags c ts r
    else do
      let (n, ts) ←
        if c == '0' then
          let (more, ts) := takeChars isOctal 2 ts
          octalEscape more ts
        else singleEscape named? c ts
      .ok (setItem flags false [.single n], ts, r)

/-- The number of a group, in digits of any script.  A plus may stand before it and blanks around
it, and low lines between its digits. -/
private def groupNumber? (cs : List Char) : Option Nat :=
  let isSpace : Char → Bool :=
    if cs.all fun c => c.toNat < 0x80 then isAsciiBlank else Text.isBlank
  let trimmed := ((cs.dropWhile isSpace).reverse.dropWhile isSpace).reverse
  let parts := ((Text.after? ['+'] trimmed).getD trimmed).splitOn '_'
  if parts.any List.isEmpty || digitLimit < parts.flatten.length then none
  else (parts.flatten.mapM Text.digitValue?).map fun ds => ds.foldl (fun n d => 10 * n + d) 0

/-- The number of groups that a pattern cannot have. -/
private def groupLimit : Nat := 1073741823

/-- The number of the group that a condition names.  A group with a name must have been opened. -/
private def conditionGroup (name : List Char) (r : Record) : Except PatternError (Nat × Record) :=
  let found (n : Nat) (r : Record) : Except PatternError (Nat × Record) :=
    if r.allows n then .ok (n, { r with kept := n :: r.kept }) else malformed
  if Text.isIdentifier name then
    match r.names.lookup (String.ofList name) with
    | some n => found n r
    | none => malformed
  else
    match groupNumber? name with
    | some n =>
      if n == 0 || groupLimit ≤ n then malformed
      else found n { r with pending := n :: r.pending }
    | none => malformed

/-! ### Repetition -/

/-- The number of repetitions that is too large. -/
def repeatLimit : Nat := 4294967295

/-- A number of repetitions. -/
private def repeats (ds : List Char) : Except PatternError Nat :=
  if digitLimit < ds.length then malformed
  else if repeatLimit ≤ number 10 ds then .error .tooManyRepeats
  else .ok (number 10 ds)

/-- How often an item is repeated by the bounds in braces; an absent one is no bound. -/
private def bounds (lo hi : List Char) : Except PatternError (Nat × Option Nat) := do
  let least ← repeats lo
  if hi.isEmpty then return (least, none)
  let most ← repeats hi
  if most < least then malformed
  return (least, some most)

/-- How often an item is repeated by the bounds after a brace, and what follows them; nothing if
there are no bounds.  A backslash that nothing follows is found before the bounds are read. -/
private def bounds? (ts : List Token) :
    Option (Except PatternError (Nat × Option Nat × List Token)) :=
  let (lo, rest) := spanChars Char.isDigit ts
  let hi? : Option (List Char × List Token) := match rest with
    | .plain ',' :: rest => some (spanChars Char.isDigit rest)
    | rest => if lo.isEmpty then none else some (lo, rest)
  match hi? with
  | some (_, [.plain '\x7d', .dangling]) => some malformed
  | some (hi, .plain '\x7d' :: rest) =>
    some ((bounds lo hi).map fun (least, most) => (least, most, rest))
  | _ => none

/-- How often an item is repeated, and what follows; nothing if no repetition comes next. -/
private def repetition? (ts : List Token) :
    Option (Except PatternError (Nat × Option Nat × List Token)) :=
  match ts with
  | .plain '*' :: ts => some (.ok (0, none, ts))
  | .plain '+' :: ts => some (.ok (1, none, ts))
  | .plain '?' :: ts => some (.ok (0, some 1, ts))
  | .plain '\x7b' :: ts => bounds? ts
  | _ => none

/-- The item repeated, as the mark after the repetition says. -/
private def repeatItem (i : Item) (least : Nat) (most : Option Nat) (ts : List Token) :
    Item × List Token :=
  let width := i.width.times least most
  match ts with
  | .plain '?' :: ts => (⟨.repeated i.node least most .reluctant, width, .repeated⟩, ts)
  | .plain '+' :: ts => (⟨.first (.repeated i.node least most .greedy), width, .repeated⟩, ts)
  | ts => (⟨.repeated i.node least most .greedy, width, .repeated⟩, ts)

/-! ### Groups -/

section

variable (named? : String → Option Char)

mutual

/-- The alternatives up to the end of a group or of the text. -/
private def alternatives (flags : Flags) :
    Nat → List Token → Record → Except PatternError (Found Item)
  | 0, _, _ => malformed
  | fuel + 1, ts, r => do
    let (is, ts, r) ← items flags fuel [] ts r
    let a := sequence is
    match ts with
    | .plain '|' :: ts => do
      let (b, ts, r) ← alternatives flags fuel ts r
      .ok (⟨.alt a.node b.node, a.width.join b.width, .plain⟩, ts, r)
    | ts => .ok ({ a with kind := .plain }, ts, r)

/-- The items up to a bar, the end of a group or the end of the text; those before are given, the
last one first. -/
private def items (flags : Flags) :
    Nat → List Item → List Token → Record → Except PatternError (Found (List Item))
  | 0, _, _, _ => malformed
  | fuel + 1, done, ts, r =>
    let push (i : Item) (ts : List Token) (r : Record) : Except PatternError (Found (List Item)) :=
      items flags fuel (i :: done) ts r
    match ts with
    | [] => .ok (done.reverse, [], r)
    | .dangling :: _ => malformed
    | .escaped c :: rest => do
      let (i, rest, r) ← escape named? flags c rest r
      push i rest r
    | .plain c :: rest =>
      if c == '|' || c == ')' then .ok (done.reverse, ts, r)
      else if flags.skips c then items flags fuel done rest r
      else if flags.verbose && c == '#' then items flags fuel done (afterLine rest) r
      else
        match repetition? ts with
        | some (.error e) => .error e
        | some (.ok (least, most, rest)) =>
          match done with
          | [] => malformed
          | i :: before =>
            if i.kind != .plain then malformed
            else
              let (i, rest) := repeatItem i least most rest
              items flags fuel (i :: before) rest { r with unfit := r.unfit || flags.template }
        | none =>
          match c with
          | '.' => push (setItem { flags with anyCase := false } true
              (if flags.dotAll then [] else [.single '\n'.toNat])) rest r
          | '^' => push (placeItem (if flags.multiline then .lineStart else .textStart)) rest r
          | '$' => push (placeItem (if flags.multiline then .lineEnd else .lastLineEnd)) rest r
          | '[' => do
            let (i, rest) ← setAfter named? flags rest
            push i rest r
          | '(' => do
            let (i?, rest, r) ← group flags fuel rest r
            match i? with
            | some i => push i rest r
            | none => items flags fuel done rest r
          | c => push (setItem flags false [.single c.toNat]) rest r

/-- The alternatives of a group and what follows its closing parenthesis. -/
private def closed (flags : Flags) : Nat → List Token → Record → Except PatternError (Found Item)
  | 0, _, _ => malformed
  | fuel + 1, ts, r => do
    let (i, ts, r) ← alternatives flags fuel ts r
    match ts with
    | .plain ')' :: ts => .ok (i, ts, r)
    | _ => malformed

/-- The group after an opening parenthesis; a comment is no item. -/
private def group (flags : Flags) :
    Nat → List Token → Record → Except PatternError (Found (Option Item))
  | 0, _, _ => malformed
  | fuel + 1, ts, r =>
    let capture (name : Option (List Char)) (ts : List Token) :
        Except PatternError (Found (Option Item)) := do
      let n := r.groups + 1
      let names ← match name with
        | some s =>
          let s := String.ofList s
          if (r.names.lookup s).isSome then malformed else .ok ((s, n) :: r.names)
        | none => .ok r.names
      let (i, ts, r) ← closed flags fuel ts { r with groups := n, names }
      .ok (some ⟨.group n i.node, i.width, .plain⟩, ts,
        { r with closed := (n, i.width) :: r.closed })
    let look (negated : Bool) (ts : List Token) : Except PatternError (Found (Option Item)) := do
      let (i, ts, r) ← closed flags fuel ts r
      .ok (some ⟨.look .ahead negated i.node, .exactly 0, .plain⟩, ts, r)
    let lookBehind (negated : Bool) (ts : List Token) :
        Except PatternError (Found (Option Item)) := do
      let (i, ts, r') ← closed flags fuel ts { r with behind := r.behind.or (some r.groups) }
      let node := Node.look (.behind (i.width.fixed?.getD 0)) negated i.node
      .ok (some ⟨node, .exactly 0, .plain⟩, ts,
        { r' with behind := r.behind, unfit := r'.unfit || i.width.fixed?.isNone })
    match ts with
    | .plain '?' :: ts =>
      match ts with
      | .plain 'P' :: .plain '<' :: ts => do
        let (name, ts) ← upTo '>' ts
        if Text.isIdentifier name then capture (some name) ts else malformed
      | .plain 'P' :: .plain '=' :: ts => do
        let (name, ts) ← upTo ')' ts
        match r.names.lookup (String.ofList name) with
        | some n => do
          let (i, ts, r) ← reference flags n ts r
          .ok (some i, ts, r)
        | none => malformed
      | .plain ':' :: ts => do
        let (i, ts, r) ← closed flags fuel ts r
        .ok (some { i with kind := .plain }, ts, r)
      | .plain '#' :: ts => do
        .ok (none, ← afterComment ts, r)
      | .plain '=' :: ts => look false ts
      | .plain '!' :: ts => look true ts
      | .plain '<' :: .plain '=' :: ts => lookBehind false ts
      | .plain '<' :: .plain '!' :: ts => lookBehind true ts
      | .plain '>' :: ts => do
        let (i, ts, r) ← closed flags fuel ts r
        .ok (some ⟨.first i.node, i.width, .plain⟩, ts, r)
      | .plain '(' :: ts => do
        let (name, ts) ← upTo ')' ts
        let (n, r) ← conditionGroup name r
        let (yes, ts, r) ← items flags fuel [] ts r
        let yes := sequence yes
        match ts with
        | .plain '|' :: ts => do
          let (no, ts, r) ← items flags fuel [] ts r
          let no := sequence no
          match ts with
          | .plain ')' :: ts =>
            .ok (some ⟨.ifMatched n yes.node no.node, yes.width.join no.width, .plain⟩, ts, r)
          | _ => malformed
        | .plain ')' :: ts =>
          .ok (some ⟨.ifMatched n yes.node .nothing, ⟨0, yes.width.most⟩, .plain⟩, ts, r)
        | _ => malformed
      | ts => do
        let (on, off, c, ts) ← switches ts
        if c == ':' then do
          let (i, ts, r) ← closed (flags.within on off) fuel ts r
          .ok (some { i with kind := .plain }, ts, r)
        else malformed
    | ts => capture none ts

end

end

/-- The pattern written in a text.  A group that a condition asks for may come later, but there
must be one, and the characters cannot be chosen to be those of ASCII and all others as well. -/
def parse (s : String) (named? : String → Option Char := fun _ => none) :
    Except PatternError Pattern := do
  let ts := tokens s.toList
  let (flags, ts) ← globalFlags (ts.length + 1) {} ts
  let (i, rest, r) ← alternatives named? flags (4 * ts.length + 8) ts {}
  if !rest.isEmpty || (flags.ascii && flags.unicode) || r.unfit
      || r.pending.any fun n => r.groups < n then malformed
  else .ok ⟨s, i.node, r.kept.eraseDups⟩

end Pattern

end DocPages

import DocPages.Text.Blank
import DocPages.Text.Rest
import DocPages.Text.Search
import DocPages.Text.Word
import DocPages.TypeExpr.Basic

/-!
# Reading types

`TypeExpr.parse` reads a type expression.  Each reader takes the text from its place on and
returns what it read together with what is left, which is shorter; a fault holds the text
from the place where something was missed.  Blanks may stand before every token.
-/

namespace DocPages

namespace TypeExpr

open Text (Rest Tail)

/-- What was missed in the text of a type. -/
inductive Missing where
  | token (t : String)
  | typeName
  | ending
  deriving DecidableEq, Inhabited

/-- The start of the message about what was missed. -/
def Missing.message : Missing → String
  | token t => "Expected '" ++ t ++ "'"
  | typeName => "Expected a type name"
  | ending => "Unexpected text"

/-- Something was missed before `rest`. -/
structure Fault where
  missing : Missing
  rest : List Char

/-! ### Tokens -/

/-- What follows blanks and then the token `t`. -/
def accept? (t : String) (cs : List Char) (ht : t.toList ≠ [] := by decide) :
    Option (Rest cs) :=
  match h : Text.after? t.toList (Text.trimLeft cs) with
  | some r => some ⟨r, by
      have hl := Text.length_trimLeft_le cs
      have hp := List.length_pos_iff.2 ht
      rw [Text.after?_eq_some_iff.1 h, List.length_append] at hl
      omega⟩
  | none => none

theorem accept?_eq_some_iff {t : String} {cs : List Char} {ht : t.toList ≠ []} {r : Rest cs} :
  accept? t cs ht = some r ↔ Text.trimLeft cs = t.toList ++ r.val
  := by
  rw [← Text.after?_eq_some_iff]
  unfold accept?
  split
  · rename_i q hq
    simp [hq, Subtype.ext_iff]
  · rename_i hq
    simp [hq]

/-- What follows blanks and then the token `t`, which must be there. -/
def expect (t : String) (cs : List Char) (ht : t.toList ≠ [] := by decide) :
    Except Fault (Rest cs) :=
  match accept? t cs ht with
  | some r => .ok r
  | none => .error ⟨.token t, Text.trimLeft cs⟩

/-- The characters of names. -/
def isNameChar (c : Char) : Bool :=
  Text.isWord c || c == '$' || c == '.'

/-- The name at the start of a text and what follows it.  A last point directly before an
angle bracket is not part of the name. -/
def splitName (cs : List Char) : List Char × List Char :=
  let run := cs.takeWhile isNameChar
  let after := cs.dropWhile isNameChar
  if run.getLast? = some '.' ∧ after.head? = some '<' then (run.dropLast, '.' :: after)
  else (run, after)

/-- A name and what follows it make up the text. -/
theorem splitName_append (cs : List Char) :
  (splitName cs).1 ++ (splitName cs).2 = cs
  := by
  have h : cs.takeWhile isNameChar ++ cs.dropWhile isNameChar = cs :=
    List.takeWhile_append_dropWhile
  unfold splitName
  dsimp only
  split
  · rename_i hc
    obtain ⟨hd, hl⟩ := List.getLast?_eq_some_iff.1 hc.1
    rw [hl, List.dropLast_concat, List.append_cons, ← hl, h]
  · exact h

/-- The name at the start of a text after blanks, if a name character stands there.  The name
is empty only if a point and an angle bracket follow. -/
def name? (cs : List Char) : Option (List Char × Tail cs) :=
  if ((Text.trimLeft cs).takeWhile isNameChar).isEmpty then none
  else some ((splitName (Text.trimLeft cs)).1, ⟨(splitName (Text.trimLeft cs)).2, by
    have h := congrArg List.length (splitName_append (Text.trimLeft cs))
    have := Text.length_trimLeft_le cs
    rw [List.length_append] at h
    omega⟩)

/-- A name that is read is part of the text. -/
theorem length_of_name? {cs n : List Char} {r : Tail cs} (h : name? cs = some (n, r)) :
  n.length + r.val.length ≤ cs.length
  := by
  unfold name? at h
  split at h
  · simp at h
  · have hl := congrArg List.length (splitName_append (Text.trimLeft cs))
    have := Text.length_trimLeft_le cs
    rw [List.length_append] at hl
    simp only [Option.some.injEq, Prod.mk.injEq] at h
    rw [← h.1, ← h.2]
    dsimp only
    omega

/-- After an empty name the text goes on with a point and an angle bracket. -/
theorem accept?_of_name?_nil {cs : List Char} {r : Tail cs} (h : name? cs = some ([], r)) :
  (accept? ".<" r.val).isSome
  := by
  unfold name? at h
  split at h
  · simp at h
  · rename_i he
    simp only [Option.some.injEq, Prod.mk.injEq] at h
    rw [← h.2]
    have h1 := h.1
    unfold splitName at h1 ⊢
    dsimp only at h1 ⊢
    split at h1
    · rename_i hc
      rw [if_pos hc]
      cases hd : List.dropWhile isNameChar (Text.trimLeft cs) with
      | nil => simp [hd] at hc
      | cons d ds =>
        rw [hd] at hc
        simp only [List.head?_cons, Option.some.injEq] at hc
        rw [hc.2]
        rfl
    · simp only at h1
      simp [h1] at he

/-! ### Types -/

/-- The suffixes of a type: brackets make an array type, an equals sign an optional one. -/
def suffixes (t : TypeExpr) (cs : List Char) : TypeExpr × Tail cs :=
  match accept? "[]" cs with
  | some ⟨r, _⟩ =>
    let (t', ⟨r', _⟩) := suffixes (application (name "Array") [t]) r
    (t', ⟨r', by omega⟩)
  | none =>
    match accept? "=" cs with
    | some ⟨r, _⟩ =>
      let (t', ⟨r', _⟩) := suffixes (optional t) r
      (t', ⟨r', by omega⟩)
    | none => (t, Tail.whole cs)
termination_by cs.length

/-- A type between parentheses is a union of at least one type. -/
def parenthesized : TypeExpr → TypeExpr
  | union es => union es
  | t => union [t]

/-- One type stands for itself, several for their union. -/
def alternatives (t : TypeExpr) : List TypeExpr → TypeExpr
  | [] => t
  | ts => union (t :: ts)

mutual

/-- Types with bars between them. -/
def readUnion (cs : List Char) : Except Fault (TypeExpr × Rest cs) := do
  let (t, ⟨r, _⟩) ← readMarked cs
  let (ts, ⟨r', _⟩) ← readAlternatives r
  pure (alternatives t ts, ⟨r', by omega⟩)
termination_by (cs.length, 3)

/-- More types, with a bar before each. -/
def readAlternatives (cs : List Char) : Except Fault (List TypeExpr × Tail cs) :=
  match accept? "|" cs with
  | some ⟨r, _⟩ => do
    let (t, ⟨r', _⟩) ← readMarked r
    let (ts, ⟨r'', _⟩) ← readAlternatives r'
    pure (t :: ts, ⟨r'', by omega⟩)
  | none => pure ([], Tail.whole cs)
termination_by (cs.length, 0)

/-- A type with the marks before and after it. -/
def readMarked (cs : List Char) : Except Fault (TypeExpr × Rest cs) :=
  match accept? "?" cs with
  | some ⟨r, _⟩ => do
    let (t, ⟨r', _⟩) ← readMarked r
    pure (nullable t, ⟨r', by omega⟩)
  | none =>
  match accept? "!" cs with
  | some ⟨r, _⟩ => do
    let (t, ⟨r', _⟩) ← readMarked r
    pure (nonNullable t, ⟨r', by omega⟩)
  | none =>
  match accept? "..." cs with
  | some ⟨r, _⟩ => do
    let (t, ⟨r', _⟩) ← readMarked r
    pure (TypeExpr.rest t, ⟨r', by omega⟩)
  | none => do
    let (t, ⟨r, _⟩) ← readPrimary cs
    let (t', ⟨r', _⟩) := suffixes t r
    pure (t', ⟨r', by omega⟩)
termination_by (cs.length, 2)

/-- A type without marks before or after it. -/
def readPrimary (cs : List Char) : Except Fault (TypeExpr × Rest cs) :=
  match accept? "*" cs with
  | some r => pure (all, r)
  | none =>
  match accept? "(" cs with
  | some ⟨r, _⟩ => do
    let (t, ⟨r', _⟩) ← readUnion r
    let ⟨r'', _⟩ ← expect ")" r'
    pure (parenthesized t, ⟨r'', by omega⟩)
  | none =>
  match accept? "\x7b" cs with
  | some ⟨r, _⟩ => do
    match accept? "\x7d" r with
    | some ⟨r', _⟩ => pure (record [], ⟨r', by omega⟩)
    | none => do
      let (fs, ⟨r', _⟩) ← readFields r
      pure (record fs, ⟨r', by omega⟩)
  | none => readNamed cs
termination_by (cs.length, 1)

/-- A type that starts with a name. -/
def readNamed (cs : List Char) : Except Fault (TypeExpr × Rest cs) :=
  match h : name? cs with
  | none => .error ⟨.typeName, Text.trimLeft cs⟩
  | some (n, ⟨r, _⟩) =>
    have hl : n.length + r.length ≤ cs.length := length_of_name? h
    if hn : n = "null".toList then
      have hl' : n.length = 4 := by
        rw [hn]
        rfl
      pure (null, ⟨r, by omega⟩)
    else if hf : n = "function".toList ∧ (accept? "(" r).isSome then do
      have hl' : n.length = 8 := by
        rw [hf.1]
        rfl
      let (params, ⟨r', _⟩) ← readParams r
      let (result, ⟨r'', _⟩) ← readResult r'
      pure (function params result, ⟨r'', by omega⟩)
    else
      match h' : accept? ".<" r with
      | some ⟨r', _⟩ => do
        let (ts, ⟨r'', _⟩) ← readArguments r'
        pure (application (name (String.ofList n)) ts, ⟨r'', by omega⟩)
      | none =>
        match accept? "<" r with
        | some ⟨r', _⟩ => do
          let (ts, ⟨r'', _⟩) ← readArguments r'
          pure (application (name (String.ofList n)) ts, ⟨r'', by omega⟩)
        | none =>
          pure (name (String.ofList n), ⟨r, by
            cases n with
            | nil =>
              have := accept?_of_name?_nil h
              simp [h'] at this
            | cons c n =>
              simp only [List.length_cons] at hl
              omega⟩)
termination_by (cs.length, 0)

/-- The arguments of a type application, up to its closing bracket. -/
def readArguments (cs : List Char) : Except Fault (List TypeExpr × Rest cs) := do
  let (t, ⟨r, _⟩) ← readUnion cs
  match accept? "," r with
  | some ⟨r', _⟩ => do
    let (ts, ⟨r'', _⟩) ← readArguments r'
    pure (t :: ts, ⟨r'', by omega⟩)
  | none => do
    let ⟨r', _⟩ ← expect ">" r
    pure ([t], ⟨r', by omega⟩)
termination_by (cs.length, 4)

/-- The parameters of a function type between parentheses. -/
def readParams (cs : List Char) : Except Fault (List TypeExpr × Tail cs) := do
  let ⟨r, _⟩ ← expect "(" cs
  match accept? ")" r with
  | some ⟨r', _⟩ => pure ([], ⟨r', by omega⟩)
  | none => do
    let (ts, ⟨r', _⟩) ← readMoreParams r
    pure (ts, ⟨r', by omega⟩)
termination_by (cs.length, 5)

/-- The parameters of a function type from one on, up to the closing parenthesis. -/
def readMoreParams (cs : List Char) : Except Fault (List TypeExpr × Rest cs) := do
  let (t, ⟨r, _⟩) ← readUnion cs
  match accept? ")" r with
  | some ⟨r', _⟩ => pure ([t], ⟨r', by omega⟩)
  | none => do
    let ⟨r', _⟩ ← expect "," r
    let (ts, ⟨r'', _⟩) ← readMoreParams r'
    pure (t :: ts, ⟨r'', by omega⟩)
termination_by (cs.length, 4)

/-- The result of a function type, after a colon. -/
def readResult (cs : List Char) : Except Fault (Option TypeExpr × Tail cs) :=
  match accept? ":" cs with
  | some ⟨r, _⟩ => do
    let (t, ⟨r', _⟩) ← readUnion r
    pure (some t, ⟨r', by omega⟩)
  | none => pure (none, Tail.whole cs)
termination_by (cs.length, 4)

/-- The fields of a record type from one on, up to the closing brace. -/
def readFields (cs : List Char) : Except Fault (List (String × TypeExpr) × Rest cs) :=
  match name? cs with
  | none => .error ⟨.typeName, Text.trimLeft cs⟩
  | some (k, ⟨r, _⟩) => do
    let ⟨r', _⟩ ← expect ":" r
    let (t, ⟨r'', _⟩) ← readUnion r'
    match accept? "\x7d" r'' with
    | some ⟨q, _⟩ => pure ([(String.ofList k, t)], ⟨q, by omega⟩)
    | none => do
      let ⟨q, _⟩ ← expect "," r''
      let (fs, ⟨q', _⟩) ← readFields q
      pure ((String.ofList k, t) :: fs, ⟨q', by omega⟩)
termination_by (cs.length, 4)

end

/-! ### A whole text -/

/-- A text is no type: something was missed at an offset in it. -/
structure ReadError where
  missing : Missing
  offset : Nat
  text : String

/-- What is said of a text that is no type. -/
def ReadError.message (e : ReadError) : String :=
  e.missing.message ++ " at offset " ++ String.ofList (Nat.toDigits 10 e.offset)
    ++ " in type '" ++ e.text ++ "'"

/-- The error for a fault in a text. -/
def Fault.toError (s : String) (f : Fault) : ReadError :=
  ⟨f.missing, s.toList.length - f.rest.length, s⟩

/-- The type that a text is, with blanks around its tokens. -/
def read (cs : List Char) : Except Fault TypeExpr := do
  let (t, r) ← readUnion cs
  match Text.trimLeft r.val with
  | [] => pure t
  | r' => .error ⟨.ending, r'⟩

/-- The type written in a text. -/
def parse (s : String) : Except ReadError TypeExpr :=
  (read s.toList).mapError (Fault.toError s)

end TypeExpr

end DocPages

import DocPages.Proofs.TypeExpr.Grammar

/-!
# Courses of readings

The readers of types call each other.  `Reader.course` writes down what each of them does at a
text: it is done, it misses something, or it calls a reader and goes on with what that one has
found.  The readers do what their courses say (`Reader.read_eq_run`), and with a course it can be
said which calls are made and whether they come to an end.
-/

namespace DocPages.TypeExpr

/-! ### Tokens -/

/-- What is behind the token `t`, with blanks before it, at the start of a text. -/
def behind? (t : String) (cs : List Char) : Option (List Char) :=
  Text.after? t.toList (Text.trimLeft cs)

theorem behind?_eq_some_iff {t : String} {cs r : List Char} :
  behind? t cs = some r ↔ Next t cs r
  := Text.after?_eq_some_iff

theorem behind?_eq_none_iff {t : String} {cs : List Char} :
  behind? t cs = none ↔ ¬ Ahead t cs
  := by
  simp only [Option.eq_none_iff_forall_ne_some, ne_eq, behind?_eq_some_iff, Ahead, not_exists]

theorem behind?_eq (t : String) (cs : List Char) (ht : t.toList ≠ [] := by decide) :
  behind? t cs = (accept? t cs ht).map Subtype.val
  := by
  cases ha : accept? t cs ht with
  | none => exact behind?_eq_none_iff.2 (accept?_eq_none_iff.1 ha)
  | some r => exact behind?_eq_some_iff.2 (next_of_accept? ha)

/-! ### Readers and what they do -/

/-- The readers of the parts of types.  That of suffixes starts with the type before them. -/
inductive Reader where
  | union
  | alternatives
  | marked
  | suffixes (t : TypeExpr)
  | primary
  | named
  | arguments
  | params
  | moreParams
  | result
  | fields

namespace Reader

/-- What a reader finds. -/
def Value : Reader → Type
  | union | marked | suffixes _ | primary | named => TypeExpr
  | alternatives | arguments | params | moreParams => List TypeExpr
  | result => Option TypeExpr
  | fields => List (String × TypeExpr)

/-- What a reader finds at the start of a text, and what is left. -/
def read : (k : Reader) → List Char → Except Fault (k.Value × List Char)
  | union, cs => (readUnion cs).map fun (t, r) => (t, r.val)
  | alternatives, cs => (readAlternatives cs).map fun (ts, r) => (ts, r.val)
  | marked, cs => (readMarked cs).map fun (t, r) => (t, r.val)
  | suffixes t, cs => .ok ((TypeExpr.suffixes t cs).1, (TypeExpr.suffixes t cs).2.val)
  | primary, cs => (readPrimary cs).map fun (t, r) => (t, r.val)
  | named, cs => (readNamed cs).map fun (t, r) => (t, r.val)
  | arguments, cs => (readArguments cs).map fun (ts, r) => (ts, r.val)
  | params, cs => (readParams cs).map fun (ts, r) => (ts, r.val)
  | moreParams, cs => (readMoreParams cs).map fun (ts, r) => (ts, r.val)
  | result, cs => (readResult cs).map fun (t, r) => (t, r.val)
  | fields, cs => (readFields cs).map fun (fs, r) => (fs, r.val)

end Reader

/-- The course of a reading: it is done, something is missed, or a reader is called and the course
goes on with what that one has found. -/
inductive Course (α : Type) where
  | done (a : α)
  | fail (f : Fault)
  | call (k : Reader) (cs : List Char) (next : k.Value × List Char → Course α)

namespace Course

variable {α : Type}

/-- The course that goes on behind a token, which must be there. -/
def expecting (t : String) (cs : List Char) (next : List Char → Course α) : Course α :=
  match behind? t cs with
  | some r => next r
  | none => .fail ⟨.token t, Text.trimLeft cs⟩

theorem expecting_eq (t : String) (cs : List Char) (next : List Char → Course α)
    (ht : t.toList ≠ [] := by decide) :
  expecting t cs next
    = match expect t cs ht with
      | .ok r => next r.val
      | .error f => .fail f
  := by
  unfold expecting expect
  rw [behind?_eq t cs ht]
  cases accept? t cs ht <;> rfl

/-- What comes of a course if `read` says what comes of its calls. -/
def run (read : (k : Reader) → List Char → Except Fault (k.Value × List Char)) :
    Course α → Except Fault α
  | done a => .ok a
  | fail f => .error f
  | call k cs next =>
    match read k cs with
    | .ok a => (next a).run read
    | .error f => .error f

end Course

/-- The course of each reader, with the readers it calls. -/
def Reader.course : (k : Reader) → List Char → Course (k.Value × List Char)
  | union, cs =>
    .call marked cs fun (t, r) =>
    .call alternatives r fun (ts, r') =>
    .done (TypeExpr.alternatives t ts, r')
  | alternatives, cs =>
    match behind? "|" cs with
    | some r =>
      .call marked r fun (t, r') =>
      .call alternatives r' fun (ts, r'') =>
      .done (t :: ts, r'')
    | none => .done ([], cs)
  | marked, cs =>
    match behind? "?" cs with
    | some r => .call marked r fun (t, r') => .done (nullable t, r')
    | none =>
    match behind? "!" cs with
    | some r => .call marked r fun (t, r') => .done (nonNullable t, r')
    | none =>
    match behind? "..." cs with
    | some r => .call marked r fun (t, r') => .done (TypeExpr.rest t, r')
    | none =>
      .call primary cs fun (t, r) =>
      .call (suffixes t) r fun (t', r') =>
      .done (t', r')
  | suffixes t, cs =>
    match behind? "[]" cs with
    | some r => .call (suffixes (application (name "Array") [t])) r fun (t', r') => .done (t', r')
    | none =>
    match behind? "=" cs with
    | some r => .call (suffixes (optional t)) r fun (t', r') => .done (t', r')
    | none => .done (t, cs)
  | primary, cs =>
    match behind? "*" cs with
    | some r => .done (all, r)
    | none =>
    match behind? "(" cs with
    | some r =>
      .call union r fun (t, r') =>
      .expecting ")" r' fun r'' =>
      .done (parenthesized t, r'')
    | none =>
    match behind? "\x7b" cs with
    | some r =>
      match behind? "\x7d" r with
      | some r' => .done (record [], r')
      | none => .call fields r fun (fs, r') => .done (record fs, r')
    | none => .call named cs fun (t, r) => .done (t, r)
  | named, cs =>
    match name? cs with
    | none => .fail ⟨.typeName, Text.trimLeft cs⟩
    | some (n, ⟨r, _⟩) =>
      if n = "null".toList then .done (null, r)
      else if n = "function".toList ∧ (behind? "(" r).isSome then
        .call params r fun (ts, r') =>
        .call result r' fun (t, r'') =>
        .done (function ts t, r'')
      else
        match (behind? ".<" r).or (behind? "<" r) with
        | some r' =>
          .call arguments r' fun (ts, r'') =>
          .done (application (name (String.ofList n)) ts, r'')
        | none => .done (name (String.ofList n), r)
  | arguments, cs =>
    .call union cs fun (t, r) =>
    match behind? "," r with
    | some r' => .call arguments r' fun (ts, r'') => .done (t :: ts, r'')
    | none => .expecting ">" r fun r' => .done ([t], r')
  | params, cs =>
    .expecting "(" cs fun r =>
    match behind? ")" r with
    | some r' => .done ([], r')
    | none => .call moreParams r fun (ts, r') => .done (ts, r')
  | moreParams, cs =>
    .call union cs fun (t, r) =>
    match behind? ")" r with
    | some r' => .done ([t], r')
    | none =>
      .expecting "," r fun r' =>
      .call moreParams r' fun (ts, r'') =>
      .done (t :: ts, r'')
  | result, cs =>
    match behind? ":" cs with
    | some r => .call union r fun (t, r') => .done (some t, r')
    | none => .done (none, cs)
  | fields, cs =>
    match name? cs with
    | none => .fail ⟨.typeName, Text.trimLeft cs⟩
    | some (k, ⟨r, _⟩) =>
      .expecting ":" r fun r' =>
      .call union r' fun (t, r'') =>
      match behind? "\x7d" r'' with
      | some q => .done ([(String.ofList k, t)], q)
      | none =>
        .expecting "," r'' fun q =>
        .call fields q fun (fs, q') =>
        .done ((String.ofList k, t) :: fs, q')

/-- Each reader does what its course says. -/
theorem Reader.read_eq_run (k : Reader) (cs : List Char) :
  k.read cs = (k.course cs).run Reader.read
  := by
  cases k with
  | union =>
    simp only [course, Course.run, Reader.read]
    rw [readUnion]
    cases readMarked cs with
    | error f => rfl
    | ok x =>
      obtain ⟨t, r, hr⟩ := x
      simp only [ok_bind, Except.map]
      cases readAlternatives r <;> rfl
  | alternatives =>
    simp only [course, Reader.read]
    rw [readAlternatives, behind?_eq "|"]
    cases accept? "|" cs with
    | none => rfl
    | some r =>
      obtain ⟨r, hr⟩ := r
      simp only [Option.map_some, Course.run, Reader.read]
      cases readMarked r with
      | error f => rfl
      | ok x =>
        obtain ⟨t, r, hr⟩ := x
        simp only [ok_bind, Except.map]
        cases readAlternatives r <;> rfl
  | marked =>
    simp only [course, Reader.read]
    rw [readMarked, behind?_eq "?", behind?_eq "!", behind?_eq "..."]
    cases accept? "?" cs with
    | some r =>
      simp only [Option.map_some, Course.run, Reader.read]
      cases readMarked r.val <;> rfl
    | none =>
    cases accept? "!" cs with
    | some r =>
      simp only [Option.map_some, Option.map_none, Course.run, Reader.read]
      cases readMarked r.val <;> rfl
    | none =>
    cases accept? "..." cs with
    | some r =>
      simp only [Option.map_some, Option.map_none, Course.run, Reader.read]
      cases readMarked r.val <;> rfl
    | none =>
      simp only [Option.map_none, Course.run, Reader.read]
      cases readPrimary cs <;> rfl
  | suffixes t =>
    simp only [course, Reader.read]
    rw [TypeExpr.suffixes, behind?_eq "[]", behind?_eq "="]
    cases accept? "[]" cs with
    | some r => rfl
    | none =>
    cases accept? "=" cs with
    | some r => rfl
    | none => rfl
  | primary =>
    simp only [course, Reader.read]
    rw [readPrimary, behind?_eq "*", behind?_eq "(", behind?_eq "\x7b"]
    cases accept? "*" cs with
    | some r => rfl
    | none =>
    cases accept? "(" cs with
    | some r =>
      simp only [Option.map_some, Option.map_none, Course.run, Reader.read]
      cases readUnion r.val with
      | error f => rfl
      | ok x =>
        obtain ⟨t, r', hr⟩ := x
        simp only [ok_bind, Except.map, Course.expecting_eq ")"]
        cases expect ")" r' <;> rfl
    | none =>
    cases accept? "\x7b" cs with
    | some r =>
      obtain ⟨r, hr⟩ := r
      simp only [Option.map_some, Option.map_none]
      rw [behind?_eq "\x7d"]
      cases accept? "\x7d" r with
      | some r' => rfl
      | none =>
        simp only [Option.map_none, Course.run, Reader.read]
        cases readFields r <;> rfl
    | none =>
      simp only [Option.map_none, Course.run, Reader.read]
      cases readNamed cs <;> rfl
  | named =>
    simp only [Reader.read]
    rw [readNamed]
    split
    · rename_i hn
      simp only [course, hn]
      rfl
    rename_i n r hr hn
    simp only [course, hn, behind?_eq "(", behind?_eq ".<", behind?_eq "<", Option.isSome_map]
    split
    · rfl
    split
    · simp only [Course.run, Reader.read]
      cases readParams r with
      | error f => rfl
      | ok x =>
        obtain ⟨ts, r', hr'⟩ := x
        simp only [ok_bind, Except.map]
        cases readResult r' <;> rfl
    split
    · rename_i r' hr' ha
      simp only [ha, Option.map_some, Option.some_or, Course.run, Reader.read]
      cases readArguments r' <;> rfl
    · rename_i ha
      simp only [ha, Option.map_none, Option.none_or]
      cases accept? "<" r with
      | some r' =>
        simp only [Option.map_some, Course.run, Reader.read]
        cases readArguments r'.val <;> rfl
      | none => rfl
  | arguments =>
    simp only [course, Course.run, Reader.read]
    rw [readArguments]
    cases readUnion cs with
    | error f => rfl
    | ok x =>
      obtain ⟨t, r, hr⟩ := x
      simp only [ok_bind, Except.map, behind?_eq ",", Course.expecting_eq ">"]
      cases accept? "," r with
      | some r' =>
        simp only [Option.map_some, Course.run, Reader.read]
        cases readArguments r'.val <;> rfl
      | none =>
        simp only [Option.map_none]
        cases expect ">" r <;> rfl
  | params =>
    simp only [course, Course.expecting_eq "(", Reader.read]
    rw [readParams]
    cases expect "(" cs with
    | error f => rfl
    | ok r =>
      obtain ⟨r, hr⟩ := r
      simp only [ok_bind, behind?_eq ")"]
      cases accept? ")" r with
      | some r' => rfl
      | none =>
        simp only [Option.map_none, Course.run, Reader.read]
        cases readMoreParams r <;> rfl
  | moreParams =>
    simp only [course, Course.run, Reader.read]
    rw [readMoreParams]
    cases readUnion cs with
    | error f => rfl
    | ok x =>
      obtain ⟨t, r, hr⟩ := x
      simp only [ok_bind, Except.map, behind?_eq ")", Course.expecting_eq ","]
      cases accept? ")" r with
      | some r' => rfl
      | none =>
        simp only [Option.map_none]
        cases expect "," r with
        | error f => rfl
        | ok r' =>
          simp only [ok_bind, Course.run, Reader.read]
          cases readMoreParams r'.val <;> rfl
  | result =>
    simp only [course, Reader.read]
    rw [readResult, behind?_eq ":"]
    cases accept? ":" cs with
    | none => rfl
    | some r =>
      simp only [Option.map_some, Course.run, Reader.read]
      cases readUnion r.val <;> rfl
  | fields =>
    simp only [course, Reader.read]
    rw [readFields]
    cases name? cs with
    | none => rfl
    | some x =>
      obtain ⟨k, r, hr⟩ := x
      simp only [Course.expecting_eq ":"]
      cases expect ":" r with
      | error f => rfl
      | ok r' =>
        simp only [ok_bind, Course.run, Reader.read]
        cases readUnion r'.val with
        | error f => rfl
        | ok x =>
          obtain ⟨t, r'', hr''⟩ := x
          simp only [ok_bind, Except.map, behind?_eq "\x7d", Course.expecting_eq ","]
          cases accept? "\x7d" r'' with
          | some q => rfl
          | none =>
            simp only [Option.map_none]
            cases expect "," r'' with
            | error f => rfl
            | ok q =>
              simp only [ok_bind, Course.run, Reader.read]
              cases readFields q.val <;> rfl

/-! ### Following a course -/

/-- What a course comes to when the courses of the readers it calls are followed. -/
inductive Course.Ends : {α : Type} → Course α → Except Fault α → Prop where
  | done {α : Type} {a : α} :
      Ends (.done a) (.ok a)
  | fail {α : Type} {f : Fault} :
      Ends (.fail f : Course α) (.error f)
  | call {α : Type} {k : Reader} {cs : List Char} {next : k.Value × List Char → Course α}
      {a : k.Value × List Char} {x : Except Fault α} :
      Ends (k.course cs) (.ok a) → Ends (next a) x → Ends (.call k cs next) x
  | callFails {α : Type} {k : Reader} {cs : List Char} {next : k.Value × List Char → Course α}
      {f : Fault} :
      Ends (k.course cs) (.error f) → Ends (.call k cs next) (.error f)

theorem Course.Ends.run_eq {α : Type} {p : Course α} {x : Except Fault α} (h : p.Ends x) :
  p.run Reader.read = x
  := by
  induction h with
  | done => rfl
  | fail => rfl
  | call _ _ ih ih' =>
    rw [run, Reader.read_eq_run, ih]
    exact ih'
  | callFails _ ih => rw [run, Reader.read_eq_run, ih]

/-- The readers that a course calls, and the texts it calls them at. -/
inductive Course.Asks {α : Type} : Course α → Reader × List Char → Prop where
  | here {k : Reader} {cs : List Char} {next : k.Value × List Char → Course α} :
      Asks (.call k cs next) (k, cs)
  | later {k : Reader} {cs : List Char} {next : k.Value × List Char → Course α}
      {a : k.Value × List Char} {c : Reader × List Char} :
      (k.course cs).Ends (.ok a) → Asks (next a) c → Asks (.call k cs next) c

/-- A reader at a text calls another one. -/
def Calls (c c' : Reader × List Char) : Prop :=
  (c.1.course c.2).Asks c'

end DocPages.TypeExpr

import DocPages.Proofs.Text.Lines
import DocPages.Record.Value

/-!
# Texts in single quotes

A script reads a literal from its opening quote to the next quote, past what a backslash takes with
it.  `escapeQuotes` puts a backslash before each quote, but those that a text has of its own are
left as they are, and each of them takes a character with it as well.  So a text comes back from
between quotes exactly if it has neither a backslash nor a line end.
-/

namespace DocPages

namespace Literal

/-! ### Reading a literal -/

/-- What a backslash stands for, by the character that it takes with it. -/
abbrev Escapes := Char → List Char

/-- A backslash before a quote or a backslash stands for that character, and one before another
character for no more than one. -/
structure Escapes.Lawful (e : Escapes) : Prop where
  quote : e '\'' = ['\'']
  backslash : e '\\' = ['\\']
  length_le : ∀ c, (e c).length ≤ 1

/-- The characters that may not stand in a literal. -/
def isLineEnd (c : Char) : Bool :=
  c == '\n' || c == '\r'

/-- The text that a literal denotes from behind its opening quote on, and what follows its closing
quote, if there is one. -/
def body? (e : Escapes) : List Char → Option (List Char × List Char)
  | [] | ['\\'] => none
  | '\\' :: c :: cs => (body? e cs).map fun p => (e c ++ p.1, p.2)
  | c :: cs =>
    if c = '\'' then some ([], cs)
    else if isLineEnd c then none
    else (body? e cs).map fun p => (c :: p.1, p.2)

/-- The whole of `script` is a literal that denotes `s`. -/
def Denotes (e : Escapes) (script s : String) : Prop :=
  ∃ cs, script.toList = '\'' :: cs ∧ body? e cs = some (s.toList, [])

variable {e : Escapes}

theorem body?_backslash (c : Char) (cs : List Char) :
  body? e ('\\' :: c :: cs) = (body? e cs).map fun p => (e c ++ p.1, p.2)
  := by
  rw [body?]

theorem body?_quote (cs : List Char) :
  body? e ('\'' :: cs) = some ([], cs)
  := by
  simp [body?]

theorem body?_lineEnd {c : Char} (hc : isLineEnd c) (cs : List Char) :
  body? e (c :: cs) = none
  := by
  have hb : c ≠ '\\' := by
    rintro rfl
    cases hc
  have hq : c ≠ '\'' := by
    rintro rfl
    cases hc
  simp [body?, hb, hq, hc]

theorem body?_plain {c : Char} (hb : c ≠ '\\') (hq : c ≠ '\'') (hl : isLineEnd c = false)
    (cs : List Char) :
  body? e (c :: cs) = (body? e cs).map fun p => (c :: p.1, p.2)
  := by
  simp [body?, hb, hq, hl]

/-! ### Escaped texts -/

/-- `escapeQuotes` on lists of characters. -/
def escaped (cs : List Char) : List Char :=
  Text.replaceChar '\'' ['\\', '\''] cs

theorem toList_escapeQuotes (s : String) :
  (escapeQuotes s).toList = escaped s.toList
  := String.toList_ofList

theorem escaped_quote (cs : List Char) :
  escaped ('\'' :: cs) = '\\' :: '\'' :: escaped cs
  := rfl

theorem escaped_cons_of_ne {c : Char} (hq : c ≠ '\'') (cs : List Char) :
  escaped (c :: cs) = c :: escaped cs
  := by
  rw [escaped, Text.replaceChar, List.flatMap_cons, if_neg hq]
  rfl

/-- A text without backslashes and line ends is read back. -/
theorem body?_escaped (he : e.Lawful) {cs : List Char}
    (h : ∀ c ∈ cs, c ≠ '\\' ∧ isLineEnd c = false) (r : List Char) :
  body? e (escaped cs ++ '\'' :: r) = some (cs, r)
  := by
  induction cs with
  | nil => apply body?_quote
  | cons c cs ih =>
    rw [List.forall_mem_cons] at h
    by_cases hq : c = '\''
    · rw [hq, escaped_quote, List.cons_append, List.cons_append, body?_backslash, ih h.2, he.quote]
      rfl
    · rw [escaped_cons_of_ne hq, List.cons_append, body?_plain h.1.1 hq h.1.2, ih h.2]
      rfl

mutual

/-- What is read from an escaped text is no longer than the text. -/
theorem length_le_of_body?_escaped (he : e.Lawful) :
    ∀ {cs ds r : List Char}, body? e (escaped cs ++ ['\'']) = some (ds, r) →
      ds.length ≤ cs.length
  | [], ds, r, h => by
    have hnil : body? e (escaped [] ++ ['\'']) = some ([], []) := body?_quote []
    cases hnil.symm.trans h
    apply Nat.le_refl
  | c :: cs, ds, r, h => by
    by_cases hq : c = '\''
    · rw [hq, escaped_quote, List.cons_append, List.cons_append, body?_backslash, he.quote,
        Option.map_eq_some_iff] at h
      obtain ⟨p, hp, h⟩ := h
      cases h
      apply Nat.succ_le_succ (length_le_of_body?_escaped he hp)
    · rw [escaped_cons_of_ne hq, List.cons_append] at h
      by_cases hb : c = '\\'
      · rw [hb] at h
        apply Nat.le_succ_of_le (length_le_of_body?_backslash he h)
      · cases hl : isLineEnd c with
        | true =>
          rw [body?_lineEnd hl] at h
          cases h
        | false =>
          rw [body?_plain hb hq hl, Option.map_eq_some_iff] at h
          obtain ⟨p, hp, h⟩ := h
          cases h
          apply Nat.succ_le_succ (length_le_of_body?_escaped he hp)

/-- A backslash before an escaped text adds nothing to what is read from it. -/
theorem length_le_of_body?_backslash (he : e.Lawful) :
    ∀ {cs ds r : List Char}, body? e ('\\' :: (escaped cs ++ ['\''])) = some (ds, r) →
      ds.length ≤ cs.length
  | [], ds, r, h => by
    -- It takes the closing quote with it.
    have hnone : body? e ('\\' :: (escaped [] ++ ['\''])) = none := body?_backslash '\'' []
    cases hnone.symm.trans h
  | c :: cs, ds, r, h => by
    by_cases hq : c = '\''
    · -- It takes the backslash before the quote with it, so the quote ends the literal.
      rw [hq, escaped_quote, List.cons_append, List.cons_append, body?_backslash, body?_quote,
        he.backslash] at h
      cases h
      apply Nat.succ_le_succ (Nat.zero_le _)
    · rw [escaped_cons_of_ne hq, List.cons_append, body?_backslash, Option.map_eq_some_iff] at h
      obtain ⟨p, hp, h⟩ := h
      cases h
      have hle := length_le_of_body?_escaped he hp
      have hone := he.length_le c
      rw [List.length_append, List.length_cons]
      omega

end

/-- A text is read back from its escaped form exactly if it has no backslash and no line end. -/
theorem body?_escaped_eq_iff (he : e.Lawful) {cs : List Char} :
  body? e (escaped cs ++ ['\'']) = some (cs, []) ↔ ∀ c ∈ cs, c ≠ '\\' ∧ isLineEnd c = false
  := by
  constructor
  · intro h
    induction cs with
    | nil =>
      intro c hc
      cases hc
    | cons c cs ih =>
      rw [List.forall_mem_cons]
      by_cases hq : c = '\''
      · rw [hq, escaped_quote, List.cons_append, List.cons_append, body?_backslash, he.quote,
          Option.map_eq_some_iff] at h
        obtain ⟨⟨us, r⟩, hp, h⟩ := h
        cases h
        rw [hq]
        exact ⟨by decide, ih hp⟩
      · rw [escaped_cons_of_ne hq, List.cons_append] at h
        by_cases hb : c = '\\'
        · rw [hb] at h
          have hle := length_le_of_body?_backslash he h
          rw [List.length_cons] at hle
          omega
        · cases hl : isLineEnd c with
          | true =>
            rw [body?_lineEnd hl] at h
            cases h
          | false =>
            rw [body?_plain hb hq hl, Option.map_eq_some_iff] at h
            obtain ⟨⟨us, r⟩, hp, h⟩ := h
            cases h
            exact ⟨⟨hb, rfl⟩, ih hp⟩
  · intro h
    apply body?_escaped he h

/-- A text comes back from between quotes exactly if it has no backslash and no line end. -/
theorem denotes_escapeQuotes_iff (he : e.Lawful) (s : String) :
  Denotes e ("'" ++ escapeQuotes s ++ "'") s
    ↔ '\\' ∉ s.toList ∧ '\n' ∉ s.toList ∧ '\r' ∉ s.toList
  := by
  have hquoted : ("'" ++ escapeQuotes s ++ "'").toList = '\'' :: (escaped s.toList ++ ['\'']) := by
    rw [String.toList_append, String.toList_append, toList_escapeQuotes]
    rfl
  have hread : Denotes e ("'" ++ escapeQuotes s ++ "'") s
      ↔ body? e (escaped s.toList ++ ['\'']) = some (s.toList, []) := by
    rw [Denotes, hquoted]
    constructor
    · rintro ⟨cs, hcs, h⟩
      rw [(List.cons.inj hcs).2]
      apply h
    · intro h
      exact ⟨_, rfl, h⟩
  have hplain : (∀ c ∈ s.toList, c ≠ '\\' ∧ isLineEnd c = false)
      ↔ '\\' ∉ s.toList ∧ '\n' ∉ s.toList ∧ '\r' ∉ s.toList := by
    grind [isLineEnd]
  rw [hread, body?_escaped_eq_iff he, hplain]

end Literal

/-! ### Examples -/

namespace Pair

theorem not_mem_of_comment? {cs line : List Char} (h : comment? cs = some line) :
  '\n' ∉ line
  := by
  have htake : ∀ r : List Char, '\n' ∉ r.takeWhile (· != '\n') := by
    intro r hm
    have hfalse := List.mem_takeWhile_imp hm
    cases hfalse
  unfold comment? at h
  split at h
  · dsimp only at h
    split at h
    · cases h
      apply htake
    · cases h
      apply htake
    · cases h
  · cases h

theorem not_mem_of_split? {cs left right : List Char} (h : split? cs = some (left, right)) :
  '\n' ∉ left ∧ '\n' ∉ right
  := by
  induction cs generalizing left with
  | nil => cases h
  | cons c cs ih =>
    rw [split?] at h
    split at h
    · rename_i us vs hsplit
      cases h
      split at hsplit
      · cases hsplit
      · rename_i hc
        obtain ⟨hu, hv⟩ := ih hsplit
        rw [List.mem_cons, not_or]
        exact ⟨⟨Ne.symm hc, hu⟩, hv⟩
    · obtain ⟨line, hline, h⟩ := Option.map_eq_some_iff.1 h
      cases h
      exact ⟨List.not_mem_nil, not_mem_of_comment? hline⟩

/-- A pair stands in one line. -/
theorem not_mem_of_parse? {line : String} {p : Pair} (h : parse? line = some p) :
  '\n' ∉ p.left.toList ∧ '\n' ∉ p.right.toList
  := by
  obtain ⟨⟨us, vs⟩, hsplit, rfl⟩ := Option.map_eq_some_iff.1 h
  obtain ⟨hu, hv⟩ := not_mem_of_split? hsplit
  rw [String.toList_ofList, String.toList_ofList]
  constructor
  · intro hm
    apply hu ((Text.trim_sublist us).subset hm)
  · intro hm
    apply hv ((Text.trim_sublist vs).subset hm)

end Pair

/-- An example stands in one line. -/
theorem ExampleList.not_mem_of_mem_items {handlers : List (String → Bool)} {doc : Doclet}
    {x : Example} (hx : x ∈ (ofDoclet handlers doc).items) :
  '\n' ∉ x.input.toList ∧ '\n' ∉ x.output.toList
  := by
  obtain ⟨⟨p, i⟩, hp, rfl⟩ := List.mem_map.1 hx
  obtain ⟨line, -, hline⟩ := List.mem_filterMap.1 (List.fst_mem_of_mem_zipIdx hp)
  apply Pair.not_mem_of_parse? hline

namespace Literal

variable {e : Escapes}

/-- A text comes back from between quotes exactly if it has no backslash and no line end.  The
input and the output of an example have no line feed, so they come back exactly if they have no
backslash and no carriage return. -/
theorem denotes_example_iff (he : e.Lawful) :
  (∀ s, Denotes e ("'" ++ escapeQuotes s ++ "'") s
      ↔ '\\' ∉ s.toList ∧ '\n' ∉ s.toList ∧ '\r' ∉ s.toList)
    ∧ ∀ handlers doc, ∀ x ∈ (ExampleList.ofDoclet handlers doc).items,
      ∀ p ∈ [("input_for_js", x.input), ("output_for_js", x.output)],
        ∃ shown, x.toValue.get? p.1 = some (.text shown)
          ∧ (Denotes e ("'" ++ shown ++ "'") p.2 ↔ '\\' ∉ p.2.toList ∧ '\r' ∉ p.2.toList)
  := by
  constructor
  · apply denotes_escapeQuotes_iff he
  · intro handlers doc x hx
    obtain ⟨hinput, houtput⟩ := ExampleList.not_mem_of_mem_items hx
    intro p hp
    simp only [List.mem_cons, List.not_mem_nil, or_false] at hp
    rcases hp with rfl | rfl
    · use escapeQuotes x.input, rfl
      rw [denotes_escapeQuotes_iff he]
      simp [hinput]
    · use escapeQuotes x.output, rfl
      rw [denotes_escapeQuotes_iff he]
      simp [houtput]

/-- The characters that scripts write with a backslash.  One before a line end joins two lines. -/
def scriptEscapes : Escapes
  | 'b' => ['\x08']
  | 't' => ['\t']
  | 'n' => ['\n']
  | 'v' => ['\x0b']
  | 'f' => ['\x0c']
  | 'r' => ['\r']
  | '\n' | '\r' => []
  | c => [c]

theorem lawful_scriptEscapes :
  scriptEscapes.Lawful
  where
  quote := rfl
  backslash := rfl
  length_le := by
    intro c
    unfold scriptEscapes
    split <;> simp

/-- What is said of a function with the example `say('a')`, which gives a quote. -/
def quoteDoclet : Doclet where
  tags := [{ title := "examples", description := some "say('a') // => '" }]

/-- The example of `quoteDoclet`. -/
def quoteExample : Example where
  number := 1
  input := "say('a')"
  output := "'"
  handler := none

theorem items_quoteDoclet :
  (ExampleList.ofDoclet [] quoteDoclet).items = [quoteExample]
  := by
  decide

theorem denotes_example_iff_quoteDoclet :
  scriptEscapes.Lawful ∧ quoteExample ∈ (ExampleList.ofDoclet [] quoteDoclet).items
    ∧ Denotes scriptEscapes ("'" ++ escapeQuotes "it's" ++ "'") "it's"
    ∧ ∃ shown, quoteExample.toValue.get? "input_for_js" = some (.text shown)
      ∧ Denotes scriptEscapes ("'" ++ shown ++ "'") "say('a')"
  := by
  have hmem : quoteExample ∈ (ExampleList.ofDoclet [] quoteDoclet).items := by
    rw [items_quoteDoclet]
    apply List.mem_singleton_self
  obtain ⟨htext, hexample⟩ := denotes_example_iff lawful_scriptEscapes
  obtain ⟨shown, hget, hiff⟩ :=
    hexample [] quoteDoclet quoteExample hmem ("input_for_js", "say('a')") List.mem_cons_self
  use lawful_scriptEscapes, hmem, (htext "it's").2 (by decide), shown, hget
  apply hiff.2
  decide

/-- A backslash takes the closing quote with it, so the literal of a backslash does not end, and the
literal of a call with an escaped line feed in it denotes the line feed. -/
theorem not_denotes_backslash :
  body? scriptEscapes (escapeQuotes "\\" ++ "'").toList = none
    ∧ ¬ Denotes scriptEscapes ("'" ++ escapeQuotes "\\" ++ "'") "\\"
    ∧ Denotes scriptEscapes ("'" ++ escapeQuotes "cut(\"\\n\")" ++ "'") "cut(\"\n\")"
  := by
  refine ⟨by decide, ?_, ?_⟩
  · rw [denotes_escapeQuotes_iff lawful_scriptEscapes]
    decide
  · exact ⟨_, rfl, by decide⟩

end Literal

end DocPages

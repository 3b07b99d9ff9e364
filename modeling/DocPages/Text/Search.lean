/-!
# Searching text

`after?` reads a given head off a text, `splitFirst?` cuts a text around the first occurrence
of another one, `replaceFirst` and `replaceChar` put a text in the place of occurrences, and
`lines` and `unlines` cut at line feeds and join again; `unifyLineEnds` makes every line end a
line feed.
-/

namespace DocPages.Text

/-- What follows `head` in a text that starts with it. -/
def after? : List Char → List Char → Option (List Char)
  | [], cs => some cs
  | h :: hs, c :: cs => if h = c then after? hs cs else none
  | _ :: _, [] => none

theorem after?_append (head cs : List Char) :
  after? head (head ++ cs) = some cs
  := by
  induction head with
  | nil => rfl
  | cons h hs ih => simp [after?, ih]

/-- A text starts with `head` exactly if something follows `head` in it. -/
theorem after?_eq_some_iff {head cs rest : List Char} :
  after? head cs = some rest ↔ cs = head ++ rest
  := by
  constructor
  · intro h
    induction head generalizing cs with
    | nil => simp_all [after?]
    | cons x xs ih =>
      cases cs with
      | nil => simp [after?] at h
      | cons c cs =>
        rw [after?] at h
        split at h
        · rename_i hx
          rw [hx, ih h, List.cons_append]
        · simp at h
  · rintro rfl
    exact after?_append head rest

/-- The text before and after the first occurrence of `sep`, if there is one. -/
def splitFirst? (sep : List Char) : List Char → Option (List Char × List Char)
  | [] => (after? sep []).map fun rest => ([], rest)
  | c :: cs =>
    match after? sep (c :: cs) with
    | some rest => some ([], rest)
    | none => (splitFirst? sep cs).map fun parts => (c :: parts.1, parts.2)

/-- The parts around a first occurrence make up the text. -/
theorem eq_of_splitFirst? {sep cs before rest : List Char}
    (h : splitFirst? sep cs = some (before, rest)) :
  cs = before ++ sep ++ rest
  := by
  induction cs generalizing before with
  | nil =>
    simp only [splitFirst?, Option.map_eq_some_iff] at h
    obtain ⟨r, hr, h⟩ := h
    obtain ⟨rfl, rfl⟩ := Prod.mk.inj h
    simpa using after?_eq_some_iff.1 hr
  | cons c cs ih =>
    rw [splitFirst?] at h
    split at h
    · rename_i r hr
      obtain ⟨rfl, rfl⟩ := Prod.mk.inj (Option.some.inj h)
      simpa using after?_eq_some_iff.1 hr
    · obtain ⟨⟨b, r⟩, hp, h⟩ := Option.map_eq_some_iff.1 h
      obtain ⟨rfl, rfl⟩ := Prod.mk.inj h
      simp [ih hp]

/-- The text with the first occurrence of `sep` replaced by `new`. -/
def replaceFirst (sep new cs : List Char) : List Char :=
  match splitFirst? sep cs with
  | some (before, rest) => before ++ new ++ rest
  | none => cs

/-- The text with each occurrence of the character `old` replaced by `new`. -/
def replaceChar (old : Char) (new cs : List Char) : List Char :=
  cs.flatMap fun c => if c = old then new else [c]

/-- The lines of a text: its parts between line feeds. -/
def lines (cs : List Char) : List (List Char) :=
  cs.splitOn '\n'

/-- The text with line feeds alone at the ends of lines. -/
def unifyLineEnds : List Char → List Char
  | '\r' :: '\n' :: cs => '\n' :: unifyLineEnds cs
  | '\r' :: cs => '\n' :: unifyLineEnds cs
  | c :: cs => c :: unifyLineEnds cs
  | [] => []

/-- Lines joined by line feeds. -/
def unlines (ls : List (List Char)) : List Char :=
  ['\n'].intercalate ls

end DocPages.Text

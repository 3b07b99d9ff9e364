/-!
# Blank characters

`isBlank` is the class of white space characters: the ASCII controls from tab to carriage
return and from file separator to space, the next-line control, and the separators of
categories Zs, Zl and Zp.  `trimLeft`, `trimRight` and `trim` remove blanks from the ends of
a list of characters, and `strip` is `trim` on strings.
-/

namespace DocPages.Text

/-- White space. -/
def isBlank (c : Char) : Bool :=
  let n := c.toNat
  (9 ≤ n && n ≤ 13) || (28 ≤ n && n ≤ 32) || n == 0x85 || n == 0xA0 || n == 0x1680
    || (0x2000 ≤ n && n ≤ 0x200A) || n == 0x2028 || n == 0x2029 || n == 0x202F || n == 0x205F
    || n == 0x3000

/-- The text from its first character that is not blank on. -/
def trimLeft (cs : List Char) : List Char :=
  cs.dropWhile isBlank

/-- The text up to its last character that is not blank. -/
def trimRight : List Char → List Char
  | [] => []
  | c :: cs =>
    match trimRight cs with
    | [] => if isBlank c then [] else [c]
    | d :: ds => c :: d :: ds

/-- The text between its first and its last character that is not blank. -/
def trim (cs : List Char) : List Char :=
  trimRight (trimLeft cs)

/-- `trim` on strings. -/
def strip (s : String) : String :=
  String.ofList (trim s.toList)

theorem length_trimLeft_le (cs : List Char) :
  (trimLeft cs).length ≤ cs.length
  := (List.dropWhile_sublist isBlank).length_le

/-- Text that starts with a character that is not blank is its own `trimLeft`. -/
theorem trimLeft_cons_of_not {c : Char} (h : isBlank c = false) (cs : List Char) :
  trimLeft (c :: cs) = c :: cs
  := by
  simp [trimLeft, h]

/-- Leading blanks are dropped by `trimLeft`. -/
theorem trimLeft_append_of_blank {ws : List Char} (h : ∀ c ∈ ws, isBlank c) (cs : List Char) :
  trimLeft (ws ++ cs) = trimLeft cs
  := by
  induction ws with
  | nil => rfl
  | cons w ws ih =>
    have hw := h w List.mem_cons_self
    have := ih fun c hc => h c (List.mem_cons_of_mem w hc)
    simpa [trimLeft, hw] using this

theorem trimLeft_trimLeft (cs : List Char) :
  trimLeft (trimLeft cs) = trimLeft cs
  := by
  induction cs with
  | nil => rfl
  | cons c cs ih =>
    cases hc : isBlank c
    · rw [trimLeft_cons_of_not hc, trimLeft_cons_of_not hc]
    · simpa [trimLeft, hc] using ih

/-- The first character of `trimLeft cs` is not blank. -/
theorem not_isBlank_of_trimLeft_eq_cons {cs ds : List Char} {d : Char}
    (h : trimLeft cs = d :: ds) :
  isBlank d = false
  := by
  induction cs with
  | nil => simp [trimLeft] at h
  | cons c cs ih =>
    cases hc : isBlank c
    · rw [trimLeft_cons_of_not hc] at h
      simp_all
    · apply ih
      simpa [trimLeft, hc] using h

end DocPages.Text

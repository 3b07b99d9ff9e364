import DocPages.Text.Blank
import DocPages.Text.Search
import DocPages.Text.Word
import Mathlib.Data.List.TakeWhile
import Mathlib.Tactic.Common

/-!
# Trimmed texts and lines

A text is its own `trim` exactly if it neither starts nor ends with a blank, and blanks around a
text do not change its `trim`.  `unlines` undoes `lines`, and the lines of texts joined by line
feeds are the lines of the texts.
-/

namespace DocPages.Text

/-- A run of characters of a class ends where another character stands. -/
theorem takeWhile_dropWhile_of_head? {p : Char → Bool} {cs : List Char}
    (h : ∀ c ∈ cs.head?, p c = false) :
  cs.takeWhile p = [] ∧ cs.dropWhile p = cs
  := by
  cases cs with
  | nil => exact ⟨rfl, rfl⟩
  | cons c cs => simp [h c rfl]

/-- Blanks stand before what `trimLeft` leaves of a text. -/
theorem exists_append_trimLeft (cs : List Char) :
  ∃ ws, (∀ w ∈ ws, isBlank w) ∧ cs = ws ++ trimLeft cs
  := by
  use cs.takeWhile isBlank
  constructor
  · intro w hw
    apply List.mem_takeWhile_imp hw
  · exact List.takeWhile_append_dropWhile.symm

/-- A text that starts with a character that is not blank is kept by `trimLeft`, whatever stands
before it. -/
theorem trimLeft_append_cons_of_not (us : List Char) {c : Char} (h : isBlank c = false)
    (cs : List Char) :
  trimLeft (us ++ c :: cs) = trimLeft us ++ c :: cs
  := by
  rw [trimLeft, List.dropWhile_append, ← trimLeft, ← trimLeft, trimLeft_cons_of_not h]
  split
  · rename_i hnil
    rw [List.isEmpty_iff.1 hnil, List.nil_append]
  · rfl

/-! ### Trimmed texts -/

/-- Blanks at the end are dropped by `trimRight`. -/
theorem trimRight_append_of_blank {ws : List Char} (h : ∀ c ∈ ws, isBlank c) (cs : List Char) :
  trimRight (cs ++ ws) = trimRight cs
  := by
  induction cs with
  | nil =>
    induction ws with
    | nil => rfl
    | cons w ws ih =>
      have hws : trimRight ws = [] := ih fun c hc => h c (List.mem_cons_of_mem w hc)
      rw [List.nil_append]
      simp [trimRight, hws, h w List.mem_cons_self]
  | cons c cs ih => rw [List.cons_append, trimRight, trimRight, ih]

/-- Text that ends with a character that is not blank is its own `trimRight`. -/
theorem trimRight_concat_of_not {c : Char} (h : isBlank c = false) (cs : List Char) :
  trimRight (cs ++ [c]) = cs ++ [c]
  := by
  induction cs with
  | nil => simp [trimRight, h]
  | cons d cs ih =>
    rw [List.cons_append, trimRight, ih]
    cases cs with
    | nil => rfl
    | cons e cs => rfl

theorem trimRight_of_last {cs : List Char} (h : ∀ c ∈ cs.getLast?, isBlank c = false) :
  trimRight cs = cs
  := by
  cases hl : cs.getLast? with
  | none =>
    rw [List.getLast?_eq_none_iff.1 hl]
    rfl
  | some c =>
    obtain ⟨ds, rfl⟩ := List.getLast?_eq_some_iff.1 hl
    apply trimRight_concat_of_not (h c hl)

theorem trimRight_sublist (cs : List Char) :
  (trimRight cs).Sublist cs
  := by
  induction cs with
  | nil => apply List.Sublist.slnil
  | cons c cs ih =>
    rw [trimRight]
    split
    · split
      · apply List.nil_sublist
      · apply List.singleton_sublist.2 List.mem_cons_self
    · rename_i d ds h
      rw [h] at ih
      apply ih.cons_cons

theorem length_trimRight_le (cs : List Char) :
  (trimRight cs).length ≤ cs.length
  := (trimRight_sublist cs).length_le

theorem trim_sublist (cs : List Char) :
  (trim cs).Sublist cs
  := (trimRight_sublist _).trans (List.dropWhile_sublist _)

/-- The text neither starts nor ends with a blank. -/
structure Trimmed (cs : List Char) : Prop where
  head : ∀ c ∈ cs.head?, isBlank c = false
  last : ∀ c ∈ cs.getLast?, isBlank c = false

theorem Trimmed.trimLeft_eq {cs : List Char} (h : Trimmed cs) :
  trimLeft cs = cs
  := by
  cases cs with
  | nil => rfl
  | cons c cs => apply trimLeft_cons_of_not (h.head c rfl)

theorem Trimmed.trimRight_eq {cs : List Char} (h : Trimmed cs) :
  trimRight cs = cs
  := trimRight_of_last h.last

/-- A text is trimmed exactly if trimming does not change it. -/
theorem trim_eq_self_iff {cs : List Char} :
  trim cs = cs ↔ Trimmed cs
  := by
  constructor
  · intro h
    have hl := length_trimLeft_le cs
    have hr := length_trimRight_le (trimLeft cs)
    have hlen : (trim cs).length = cs.length := by rw [h]
    rw [trim] at hlen
    have hleft : trimLeft cs = cs := by
      apply (List.dropWhile_suffix isBlank).eq_of_length
      rw [← trimLeft]
      omega
    constructor
    · intro c hc
      obtain ⟨ds, hds⟩ := List.head?_eq_some_iff.1 hc
      rw [hds] at hleft
      apply not_isBlank_of_trimLeft_eq_cons hleft
    · intro c hc
      obtain ⟨ds, hds⟩ := List.getLast?_eq_some_iff.1 hc
      by_contra hb
      have hblank : ∀ w ∈ [c], isBlank w := by simpa using hb
      rw [hleft, hds, trimRight_append_of_blank hblank] at hlen
      have := length_trimRight_le ds
      rw [List.length_append, List.length_singleton] at hlen
      omega
  · intro h
    rw [trim, h.trimLeft_eq, h.trimRight_eq]

theorem trimRight_prefix (cs : List Char) :
  trimRight cs <+: cs
  := by
  induction cs with
  | nil => apply List.prefix_rfl
  | cons c cs ih =>
    rw [trimRight]
    split
    · split
      · apply List.nil_prefix
      · exact ⟨cs, rfl⟩
    · rename_i d ds h
      rw [h] at ih
      apply List.cons_prefix_cons.2 ⟨rfl, ih⟩

/-- The last character of `trimRight cs` is not blank. -/
theorem not_isBlank_of_getLast?_trimRight (cs : List Char) :
  ∀ c ∈ (trimRight cs).getLast?, isBlank c = false
  := by
  induction cs with
  | nil =>
    intro c hc
    cases hc
  | cons d cs ih =>
    rw [trimRight]
    split
    · split
      · intro c hc
        cases hc
      · rename_i hd
        intro c hc
        cases hc
        apply Bool.eq_false_iff.2 hd
    · rename_i e es h
      rw [h] at ih
      intro c hc
      apply ih c
      simpa using hc

theorem trimmed_trim (cs : List Char) :
  Trimmed (trim cs)
  := by
  constructor
  · intro c hc
    obtain ⟨ds, hds⟩ := List.head?_eq_some_iff.1 hc
    obtain ⟨es, hes⟩ := trimRight_prefix (trimLeft cs)
    rw [← trim, hds, List.cons_append] at hes
    apply not_isBlank_of_trimLeft_eq_cons hes.symm
  · apply not_isBlank_of_getLast?_trimRight

theorem trim_trimLeft (cs : List Char) :
  trim (trimLeft cs) = trim cs
  := by
  rw [trim, trimLeft_trimLeft, ← trim]

/-- Blanks around a text do not matter to `trim`. -/
theorem trim_append_of_blank {us vs : List Char} (hu : ∀ c ∈ us, isBlank c)
    (hv : ∀ c ∈ vs, isBlank c) {cs : List Char} (h : Trimmed cs) :
  trim (us ++ cs ++ vs) = cs
  := by
  rw [List.append_assoc, trim, trimLeft_append_of_blank hu]
  cases cs with
  | nil =>
    have hnil : trimLeft vs = [] := List.dropWhile_eq_nil_iff.2 hv
    rw [List.nil_append, hnil]
    rfl
  | cons c cs =>
    rw [List.cons_append, trimLeft_cons_of_not (h.head c rfl), ← List.cons_append,
      trimRight_append_of_blank hv, h.trimRight_eq]

theorem strip_eq_self_iff {s : String} :
  strip s = s ↔ Trimmed s.toList
  := by
  rw [← trim_eq_self_iff, strip, ← String.toList_inj, String.toList_ofList]

/-- Texts that do not end with a blank, one after the other, do not end with a blank. -/
theorem last_append {cs ds : List Char} (hc : ∀ c ∈ cs.getLast?, isBlank c = false)
    (hd : ∀ c ∈ ds.getLast?, isBlank c = false) :
  ∀ c ∈ (cs ++ ds).getLast?, isBlank c = false
  := by
  intro c h
  rw [List.getLast?_append] at h
  cases hl : ds.getLast? with
  | none =>
    rw [hl] at h
    apply hc c h
  | some d =>
    rw [hl] at h
    cases h
    apply hd c hl

/-- The code points of blanks. -/
private def blankPoints : List Nat :=
  [9, 10, 11, 12, 13, 28, 29, 30, 31, 32, 0x85, 0xA0, 0x1680, 0x2000, 0x2001, 0x2002, 0x2003,
    0x2004, 0x2005, 0x2006, 0x2007, 0x2008, 0x2009, 0x200A, 0x2028, 0x2029, 0x202F, 0x205F, 0x3000]

private theorem toNat_mem_blankPoints {c : Char} (h : isBlank c) :
  c.toNat ∈ blankPoints
  := by
  simp only [isBlank, Bool.or_eq_true, Bool.and_eq_true, decide_eq_true_eq, beq_iff_eq] at h
  simp only [blankPoints, List.mem_cons, List.not_mem_nil, or_false]
  omega

private theorem isWord_blankPoints :
  ∀ n ∈ blankPoints, isWord (Char.ofNat n) = false
  := by
  decide +kernel

/-- No word character is blank. -/
theorem not_isBlank_of_isWord {c : Char} (h : isWord c) :
  isBlank c = false
  := by
  by_contra hb
  rw [Bool.not_eq_false] at hb
  have hw := isWord_blankPoints _ (toNat_mem_blankPoints hb)
  rw [Char.ofNat_toNat, h] at hw
  cases hw

/-! ### Lines -/

theorem unlines_lines (cs : List Char) :
  unlines (lines cs) = cs
  := List.intercalate_splitOn '\n'

theorem lines_ne_nil (cs : List Char) :
  lines cs ≠ []
  := List.splitOn_ne_nil '\n' cs

/-- A line feed between two texts separates their lines. -/
theorem lines_append_cons (cs ds : List Char) :
  lines (cs ++ '\n' :: ds) = lines cs ++ lines ds
  := List.splitOn_append_cons_self cs ds

/-- A text without line feeds is one line. -/
theorem lines_of_not_mem {cs : List Char} (h : '\n' ∉ cs) :
  lines cs = [cs]
  := List.splitOn_eq_singleton h

theorem not_mem_of_mem_lines {cs l : List Char} (h : l ∈ lines cs) :
  '\n' ∉ l
  := by
  induction cs generalizing l with
  | nil => simp_all [lines]
  | cons c cs ih =>
    rw [lines, List.splitOn_cons_eq_if_modifyHead] at h
    split at h
    · rcases List.mem_cons.1 h with rfl | h
      · apply List.not_mem_nil
      · apply ih h
    · rename_i hc
      cases hl : cs.splitOn '\n' with
      | nil => simp [hl] at h
      | cons m ms =>
        rw [hl, List.modifyHead_cons] at h
        rcases List.mem_cons.1 h with rfl | h
        · have hm := ih (l := m) (by rw [lines, hl]; apply List.mem_cons_self)
          rw [beq_iff_eq] at hc
          simp [hm, Ne.symm hc]
        · apply ih
          rw [lines, hl]
          apply List.mem_cons_of_mem m h

/-- A text without line feeds before another one belongs to its first line. -/
theorem lines_append_of_not_mem {us : List Char} (h : '\n' ∉ us) (cs : List Char) :
  lines (us ++ cs) = (lines cs).modifyHead (us ++ ·)
  := by
  induction us with
  | nil =>
    cases hl : lines cs with
    | nil => exact hl
    | cons l ls => exact hl
  | cons u us ih =>
    rw [List.mem_cons, not_or] at h
    rw [List.cons_append, lines, List.splitOn_cons_eq_if_modifyHead,
      if_neg (by simpa using Ne.symm h.1), ← lines, ih h.2, List.modifyHead_modifyHead]
    rfl

theorem lines_unlines {ls : List (List Char)} (h : ∀ l ∈ ls, '\n' ∉ l) (hne : ls ≠ []) :
  lines (unlines ls) = ls
  := List.splitOn_intercalate '\n' h hne

theorem unlines_cons {ls : List (List Char)} (l : List Char) (hne : ls ≠ []) :
  unlines (l :: ls) = l ++ '\n' :: unlines ls
  := by
  rw [unlines, List.intercalate_cons_of_ne_nil hne]
  simp [unlines]

theorem mem_unlines {ls : List (List Char)} {l : List Char} {c : Char} (hl : l ∈ ls) (hc : c ∈ l) :
  c ∈ unlines ls
  := by
  induction ls with
  | nil => cases hl
  | cons m ms ih =>
    cases ms with
    | nil =>
      rw [List.mem_singleton.1 hl] at hc
      simpa [unlines] using hc
    | cons k ks =>
      rw [unlines_cons m (by simp), List.mem_append, List.mem_cons]
      rcases List.mem_cons.1 hl with rfl | hl
      · left
        apply hc
      · right
        right
        apply ih hl

/-- The lines of joined texts are the lines of the texts. -/
theorem lines_unlines_of_ne_nil {ls : List (List Char)} (hne : ls ≠ []) :
  lines (unlines ls) = ls.flatMap lines
  := by
  induction ls with
  | nil => exact absurd rfl hne
  | cons l ls ih =>
    cases ls with
    | nil => simp [unlines]
    | cons m ms =>
      have hms : m :: ms ≠ [] := by simp
      rw [unlines_cons l hms, lines_append_cons, ih hms]
      rfl

theorem unlines_append {ls ms : List (List Char)} (hl : ls ≠ []) (hm : ms ≠ []) :
  unlines (ls ++ ms) = unlines ls ++ '\n' :: unlines ms
  := by
  induction ls with
  | nil => exact absurd rfl hl
  | cons l ls ih =>
    cases ls with
    | nil =>
      rw [List.singleton_append, unlines_cons l hm]
      simp [unlines]
    | cons k ks =>
      rw [List.cons_append, unlines_cons l (by simp), ih (by simp), unlines_cons l (by simp),
        List.append_assoc, List.cons_append]

/-- Trimmed texts that are joined by line feeds are trimmed. -/
theorem trimmed_unlines {ls : List (List Char)} (h : ∀ l ∈ ls, Trimmed l ∧ l ≠ []) :
  Trimmed (unlines ls)
  := by
  suffices hs : Trimmed (unlines ls) ∧ (ls ≠ [] → unlines ls ≠ []) from hs.1
  induction ls with
  | nil =>
    constructor
    · constructor <;> simp [unlines]
    · intro hne
      exact absurd rfl hne
  | cons l ls ih =>
    obtain ⟨hl, hne⟩ := h l List.mem_cons_self
    obtain ⟨ht, hu⟩ := ih fun m hm => h m (List.mem_cons_of_mem l hm)
    cases ls with
    | nil =>
      have hone : unlines [l] = l := by simp [unlines]
      rw [hone]
      exact ⟨hl, fun _ => hne⟩
    | cons m ms =>
      have hms : m :: ms ≠ [] := by simp
      rw [unlines_cons l hms]
      constructor
      · constructor
        · intro c hc
          cases l with
          | nil => exact absurd rfl hne
          | cons d l => apply hl.head c hc
        · intro c hc
          rw [List.getLast?_append, List.getLast?_cons_of_ne_nil (hu hms)] at hc
          cases hlast : (unlines (m :: ms)).getLast? with
          | none => exact absurd (List.getLast?_eq_none_iff.1 hlast) (hu hms)
          | some d =>
            rw [hlast] at hc
            cases hc
            apply ht.last c hlast
      · simp

end DocPages.Text

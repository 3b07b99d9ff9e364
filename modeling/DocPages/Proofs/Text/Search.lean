import DocPages.Text.Search
import Mathlib.Tactic.Common

/-!
# First occurrences

A text that occurs is found, and it does not occur before the place where it is found.  A character
that does not occur in a text is found after it, so the first occurrence after the text is the
earliest of all.
-/

namespace DocPages.Text

theorem exists_splitFirst? (sep before rest : List Char) :
  ∃ parts, splitFirst? sep (before ++ sep ++ rest) = some parts
  := by
  induction before with
  | nil =>
    have ha := after?_append sep rest
    rw [List.nil_append]
    cases hcs : sep ++ rest with
    | nil =>
      rw [hcs] at ha
      rw [splitFirst?, ha]
      exact ⟨_, rfl⟩
    | cons c cs =>
      rw [hcs] at ha
      rw [splitFirst?, ha]
      exact ⟨_, rfl⟩
  | cons c cs ih =>
    obtain ⟨parts, hparts⟩ := ih
    rw [List.cons_append, List.cons_append, splitFirst?, hparts]
    split
    · exact ⟨_, rfl⟩
    · exact ⟨_, rfl⟩

/-- A text is not cut exactly if `sep` does not occur in it. -/
theorem splitFirst?_eq_none_iff {sep cs : List Char} :
  splitFirst? sep cs = none ↔ ¬ sep <:+: cs
  := by
  constructor
  · rintro h ⟨before, rest, rfl⟩
    obtain ⟨parts, hparts⟩ := exists_splitFirst? sep before rest
    rw [h] at hparts
    cases hparts
  · intro h
    cases hparts : splitFirst? sep cs with
    | none => rfl
    | some parts => exact absurd ⟨parts.1, parts.2, (eq_of_splitFirst? hparts).symm⟩ h

/-- There is no `sep` in the text before its first occurrence. -/
theorem not_isInfix_of_splitFirst? {sep cs before rest : List Char} (hsep : sep ≠ [])
    (h : splitFirst? sep cs = some (before, rest)) :
  ¬ sep <:+: before
  := by
  have hnil : ¬ sep <:+: [] := fun hs => hsep (List.eq_nil_of_infix_nil hs)
  induction cs generalizing before with
  | nil =>
    obtain ⟨r, -, h⟩ := Option.map_eq_some_iff.1 h
    cases h
    exact hnil
  | cons c cs ih =>
    rw [splitFirst?] at h
    split at h
    · cases h
      exact hnil
    · rename_i hnone
      obtain ⟨⟨b, r⟩, hparts, h⟩ := Option.map_eq_some_iff.1 h
      cases h
      intro hs
      rcases List.infix_cons_iff.1 hs with hprefix | hs
      · -- It would stand at the start of the whole text.
        have hlonger : c :: b <+: c :: cs := by
          rw [eq_of_splitFirst? hparts, List.append_assoc]
          exact ⟨_, rfl⟩
        obtain ⟨r', hr'⟩ := hprefix.trans hlonger
        rw [after?_eq_some_iff.2 hr'.symm] at hnone
        cases hnone
      · apply ih hparts hs

variable {as us vs ws : List Char} {c : Char}

/-- A character of a text put together of two stands in the first or behind it. -/
theorem exists_or_exists_of_append_cons (he : us ++ c :: vs = as ++ ws) :
  (∃ as', as = us ++ c :: as' ∧ vs = as' ++ ws) ∨ ∃ us', us = as ++ us' ∧ us' ++ c :: vs = ws
  := by
  rcases List.append_eq_append_iff.1 he with ⟨bs, rfl, hc⟩ | ⟨bs, rfl, hc⟩
  · cases bs with
    | nil =>
      right
      exact ⟨[], by simp, hc⟩
    | cons b bs =>
      obtain ⟨rfl, htail⟩ := List.cons.inj hc
      left
      exact ⟨bs, rfl, htail⟩
  · right
    exact ⟨bs, rfl, hc.symm⟩

/-- A character does not stand in a text in which it does not occur, but after it. -/
theorem exists_of_append_cons (ha : c ∉ as) (he : us ++ c :: vs = as ++ ws) :
  ∃ us', us = as ++ us' ∧ us' ++ c :: vs = ws
  := by
  rcases exists_or_exists_of_append_cons he with ⟨as', rfl, -⟩ | h
  · exact absurd (List.mem_append_right _ List.mem_cons_self) ha
  · exact h

/-- Of two occurrences of a character, the first after a text without it is the earlier one. -/
theorem eq_or_exists_of_append_cons (ha : c ∉ as) (he : us ++ c :: vs = as ++ c :: ws) :
  us = as ∧ vs = ws ∨ ∃ us', us = as ++ c :: us' ∧ us' ++ c :: vs = ws
  := by
  obtain ⟨bs, rfl, hb⟩ := exists_of_append_cons ha he
  cases bs with
  | nil =>
    left
    exact ⟨List.append_nil as, (List.cons.inj hb).2⟩
  | cons b bs =>
    obtain ⟨rfl, htail⟩ := List.cons.inj hb
    right
    exact ⟨bs, rfl, htail⟩

/-- A text is cut at the first occurrence of a character. -/
theorem splitFirst?_singleton (ha : c ∉ as) (ws : List Char) :
  splitFirst? [c] (as ++ c :: ws) = some (as, ws)
  := by
  induction as with
  | nil => simp [splitFirst?, after?]
  | cons a as ih =>
    rw [List.mem_cons, not_or] at ha
    rw [List.cons_append, splitFirst?, after?, if_neg ha.1, ih ha.2]
    rfl

/-! ### Separators that do not overlap with themselves -/

variable {sep : List Char}

/-- Where the first character of a separator does not occur in it again, the separator at the
start of a text is not the later one, or it stands before that. -/
theorem eq_nil_or_isPrefix (hc : c ∉ sep) (he : as ++ c :: (sep ++ ws) = c :: (sep ++ vs)) :
  as = [] ∨ c :: sep <+: as
  := by
  cases as with
  | nil =>
    left
    rfl
  | cons a as =>
    obtain ⟨rfl, htail⟩ := List.cons.inj he
    obtain ⟨us, rfl, -⟩ := exists_of_append_cons hc htail
    right
    exact ⟨us, rfl⟩

/-- A text is cut at the first occurrence of such a separator. -/
theorem splitFirst?_cons (hc : c ∉ sep) (ha : ¬ c :: sep <:+: as) (ws : List Char) :
  splitFirst? (c :: sep) (as ++ c :: (sep ++ ws)) = some (as, ws)
  := by
  induction as with
  | nil =>
    have hafter := after?_append (c :: sep) ws
    rw [List.cons_append] at hafter
    rw [List.nil_append, splitFirst?, hafter]
  | cons a as ih =>
    have hnone : after? (c :: sep) (a :: (as ++ c :: (sep ++ ws))) = none := by
      cases hafter : after? (c :: sep) (a :: (as ++ c :: (sep ++ ws))) with
      | none => rfl
      | some r =>
        have hstart : a :: as ++ c :: (sep ++ ws) = c :: (sep ++ r) := after?_eq_some_iff.1 hafter
        rcases eq_nil_or_isPrefix hc hstart with hnil | hpre
        · cases hnil
        · exact absurd hpre.isInfix ha
    have htail : ¬ c :: sep <:+: as := fun hs => ha (List.infix_cons hs)
    rw [List.cons_append, splitFirst?, hnone, ih htail]
    rfl

end DocPages.Text

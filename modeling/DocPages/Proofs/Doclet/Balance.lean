import DocPages.Doclet.Braced
import DocPages.Proofs.TypeExpr.Grammar
import Mathlib.Data.List.TakeWhile
import Mathlib.Tactic.Common

/-!
# Balanced braces

A text is `Balanced` if it has as many opening as closing braces, and no part of it from the
start on has more closing ones.  `closing` stops at the brace after a balanced text, and every
text that is a type is balanced, so `splitBraced` finds a type between its braces.
-/

namespace DocPages

namespace Doclet

/-- As many braces are closed as are opened, and none before it is opened. -/
structure Balanced (cs : List Char) : Prop where
  count_eq : cs.count '\x7d' = cs.count '\x7b'
  count_le : ∀ ds, ds <+: cs → ds.count '\x7d' ≤ ds.count '\x7b'

namespace Balanced

/-- A text without braces is balanced. -/
theorem of_not_mem {cs : List Char} (ho : '\x7b' ∉ cs) (hc : '\x7d' ∉ cs) :
  Balanced cs
  := by
  constructor
  · rw [List.count_eq_zero_of_not_mem ho, List.count_eq_zero_of_not_mem hc]
  · intro ds hds
    have hd : '\x7d' ∉ ds := fun h => hc (hds.subset h)
    rw [List.count_eq_zero_of_not_mem hd]
    apply Nat.zero_le

theorem append {cs ds : List Char} (hc : Balanced cs) (hd : Balanced ds) :
  Balanced (cs ++ ds)
  := by
  constructor
  · rw [List.count_append, List.count_append, hc.count_eq, hd.count_eq]
  · intro es hes
    rcases List.prefix_or_prefix_of_prefix hes (List.prefix_append cs ds) with h | ⟨fs, rfl⟩
    · apply hc.count_le es h
    · have hf := hd.count_le fs ((List.prefix_append_right_inj cs).1 hes)
      rw [List.count_append, List.count_append, hc.count_eq]
      omega

/-- A balanced text in braces is balanced. -/
theorem braced {cs : List Char} (hc : Balanced cs) :
  Balanced ('\x7b' :: cs ++ ['\x7d'])
  := by
  constructor
  · simp [hc.count_eq]
  · intro es hes
    rcases List.prefix_concat_iff.1 hes with rfl | h
    · simp [hc.count_eq]
    · rcases List.prefix_cons_iff.1 h with rfl | ⟨fs, rfl, hf⟩
      · simp
      · have hle := hc.count_le fs hf
        rw [List.count_cons_of_ne (by decide), List.count_cons_self]
        omega

end Balanced

/-- Text in which at most `depth` more braces are closed than opened is passed over, and `depth`
changes by the braces in it. -/
theorem closing_append {ds : List Char} {depth : Nat} (cs : List Char)
    (h : ∀ es, es <+: ds → es.count '\x7d' ≤ depth + es.count '\x7b') :
  closing depth (ds ++ cs) = (closing (depth + ds.count '\x7b' - ds.count '\x7d') cs).map
    fun p => (ds ++ p.1, p.2)
  := by
  induction ds generalizing depth with
  | nil => simp
  | cons d ds ih =>
    have hd : ∀ es, es <+: ds → (d :: es).count '\x7d' ≤ depth + (d :: es).count '\x7b' := by
      intro es hes
      apply h
      apply List.cons_prefix_cons.2 ⟨rfl, hes⟩
    rw [List.cons_append, closing.eq_def]
    dsimp only
    split
    · rename_i hopen
      subst hopen
      rw [ih, Option.map_map]
      · rw [List.count_cons_self, List.count_cons_of_ne (by decide), Nat.add_right_comm,
          Nat.add_assoc]
        rfl
      · intro es hes
        have := hd es hes
        rw [List.count_cons_self, List.count_cons_of_ne (by decide)] at this
        omega
    · rename_i hopen
      split
      · rename_i hclose
        subst hclose
        have hpos := hd [] List.nil_prefix
        obtain ⟨d', rfl⟩ : ∃ d', depth = d' + 1 := ⟨depth - 1, by simp at hpos; omega⟩
        dsimp only
        rw [ih, Option.map_map]
        · rw [List.count_cons_self, List.count_cons_of_ne (by decide), Nat.add_right_comm,
            Nat.add_sub_add_right]
          rfl
        · intro es hes
          have := hd es hes
          rw [List.count_cons_self, List.count_cons_of_ne (by decide)] at this
          omega
      · rename_i hclose
        rw [ih, Option.map_map]
        · rw [List.count_cons_of_ne hopen, List.count_cons_of_ne hclose]
          rfl
        · intro es hes
          have := hd es hes
          rw [List.count_cons_of_ne hopen, List.count_cons_of_ne hclose] at this
          apply this

/-- The brace after a balanced text closes the one before it. -/
theorem Balanced.splitBraced_eq {cs ds r : List Char} (h : Balanced ds)
    (hc : Text.trimLeft cs = '\x7b' :: ds ++ '\x7d' :: r) :
  splitBraced cs = .ok (some ds, r)
  := by
  have hclose : closing 0 (ds ++ '\x7d' :: r) = some (ds, r) := by
    rw [closing_append _ (by simpa using h.count_le), h.count_eq]
    simp [closing]
  rw [splitBraced, hc]
  simp [hclose]

/-- A text that does not start with a brace stays as it is. -/
theorem splitBraced_of_head? {cs : List Char} (h : (Text.trimLeft cs).head? ≠ some '\x7b') :
  splitBraced cs = .ok (none, cs)
  := by
  rw [splitBraced]
  split
  · rename_i r hr
    simp [hr] at h
  · rfl

/-- After a balanced text, `cs` goes on with `r`. -/
def Skips (cs r : List Char) : Prop :=
  ∃ ds, Balanced ds ∧ cs = ds ++ r

namespace Skips

theorem refl (cs : List Char) :
  Skips cs cs
  := ⟨[], Balanced.of_not_mem List.not_mem_nil List.not_mem_nil, rfl⟩

theorem trans {cs r q : List Char} (h : Skips cs r) (h' : Skips r q) :
  Skips cs q
  := by
  obtain ⟨ds, hd, rfl⟩ := h
  obtain ⟨es, he, rfl⟩ := h'
  use ds ++ es, hd.append he
  rw [List.append_assoc]

/-- From an opening brace to behind the brace after a balanced text. -/
theorem braced {r q : List Char} (h : Skips r ('\x7d' :: q)) :
  Skips ('\x7b' :: r) q
  := by
  obtain ⟨ds, hd, rfl⟩ := h
  use '\x7b' :: ds ++ ['\x7d'], hd.braced
  simp

/-- Blanks are balanced. -/
theorem trimLeft (cs : List Char) :
  Skips cs (Text.trimLeft cs)
  := by
  use cs.takeWhile Text.isBlank
  constructor
  · apply Balanced.of_not_mem
    · intro h
      exact absurd (List.mem_takeWhile_imp h) (by decide)
    · intro h
      exact absurd (List.mem_takeWhile_imp h) (by decide)
  · exact List.takeWhile_append_dropWhile.symm

end Skips

end Doclet

namespace TypeExpr

open Doclet (Balanced Skips)

theorem Next.skips_token {t : String} {cs r : List Char} (h : Next t cs r) :
  Skips cs (t.toList ++ r)
  := by
  rw [← h]
  apply Skips.trimLeft

theorem Next.skips {t : String} {cs r : List Char} (h : Next t cs r)
    (ho : '\x7b' ∉ t.toList := by decide) (hc : '\x7d' ∉ t.toList := by decide) :
  Skips cs r
  := h.skips_token.trans ⟨t.toList, Balanced.of_not_mem ho hc, rfl⟩

theorem NextName.skips {n cs r : List Char} (h : NextName n cs r) :
  Skips cs r
  := by
  have hn : Balanced n := by
    apply Balanced.of_not_mem
    · intro hc
      exact absurd (h.isNameChar_of_mem hc) (by decide)
    · intro hc
      exact absurd (h.isNameChar_of_mem hc) (by decide)
  apply (Skips.trimLeft cs).trans
  rw [h.eq_append]
  exact ⟨n, hn, rfl⟩

/-- The text of a phrase that leaves `r` is balanced.  The fields of a record end with its
closing brace, which is left out here. -/
def Phrase.Skips (cs r : List Char) : Phrase → Prop
  | .fields _ => Doclet.Skips cs ('\x7d' :: r)
  | _ => Doclet.Skips cs r

/-- The text of every phrase is balanced. -/
theorem Reads.skips {cs r : List Char} {p : Phrase} (h : Reads cs p r) :
  p.Skips cs r
  := by
  induction h with
  | union _ _ ih₁ ih₂ => apply Doclet.Skips.trans ih₁ ih₂
  | bar h _ _ ih₁ ih₂ => apply (h.skips.trans ih₁).trans ih₂
  | nullable h _ ih => apply h.skips.trans ih
  | nonNullable h _ ih => apply h.skips.trans ih
  | rest h _ ih => apply h.skips.trans ih
  | unmarked _ _ _ _ _ ih₁ ih₂ => apply Doclet.Skips.trans ih₁ ih₂
  | array h _ ih => apply h.skips.trans ih
  | optional h _ ih => apply h.skips.trans ih
  | all h => apply h.skips
  | group h _ h' ih => apply (h.skips.trans ih).trans h'.skips
  | emptyRecord h h' => apply h.skips_token.trans (Doclet.Skips.braced h'.skips_token)
  | record h _ _ ih => apply h.skips_token.trans (Doclet.Skips.braced ih)
  | named _ _ ih => apply ih
  | null h => apply h.skips
  | function h _ _ ih₁ ih₂ => apply (h.skips.trans ih₁).trans ih₂
  | application h _ h' _ ih =>
    apply h.skips.trans
    rcases h' with h' | h'
    · apply h'.skips.trans ih
    · apply h'.skips.trans ih
  | name h _ _ _ _ => apply h.skips
  | argument _ h _ ih₁ ih₂ => apply (Doclet.Skips.trans ih₁ h.skips).trans ih₂
  | lastArgument _ h ih => apply Doclet.Skips.trans ih h.skips
  | noParams h h' => apply h.skips.trans h'.skips
  | params h _ _ ih => apply h.skips.trans ih
  | param _ h _ ih₁ ih₂ => apply (Doclet.Skips.trans ih₁ h.skips).trans ih₂
  | lastParam _ h ih => apply Doclet.Skips.trans ih h.skips
  | result h _ ih => apply h.skips.trans ih
  | field hk hc _ h _ ih₁ ih₂ =>
    apply (hk.skips.trans hc.skips).trans
    apply (Doclet.Skips.trans ih₁ h.skips).trans ih₂
  | lastField hk hc _ h ih =>
    apply (hk.skips.trans hc.skips).trans
    apply Doclet.Skips.trans ih h.skips_token
  | noBar _ => apply Doclet.Skips.refl
  | noSuffix _ _ => apply Doclet.Skips.refl
  | noResult _ => apply Doclet.Skips.refl

/-- A text that is a type is balanced. -/
theorem balanced_of_parse {cs : List Char} {t : TypeExpr} (h : parse (String.ofList cs) = .ok t) :
  Balanced cs
  := by
  obtain ⟨r, hr, hblank⟩ := parse_eq_ok_iff.1 h
  rw [String.toList_ofList] at hr
  have hs : Skips cs [] := by
    apply Doclet.Skips.trans hr.skips
    rw [← hblank]
    apply Skips.trimLeft
  obtain ⟨ds, hd, rfl⟩ := hs
  rw [List.append_nil]
  apply hd

end TypeExpr

end DocPages

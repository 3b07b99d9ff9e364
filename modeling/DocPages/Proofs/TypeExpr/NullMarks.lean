import DocPages.Proofs.TypeExpr.Format
import DocPages.Proofs.TypeExpr.Source
import Mathlib.Tactic.Common

/-!
# Marks for null in texts and types

A question or exclamation mark in the text of a type is a mark for null in the type that is read,
and there is no other way to get one.  `Passes P cs r` says of the text between `cs` and `r` that
a mark stands in it exactly if `P` holds, so that the rules of the grammar can be followed phrase by
phrase.  A type that is read is therefore displayed exactly if no mark stands in its text.
-/

namespace DocPages.TypeExpr

/-! ### Marks in a type -/

/-- A type within the type is marked as with or without null. -/
def HoldsMark (t : TypeExpr) : Prop :=
  ∃ p, Within t p ∧ p.isNullMarked

theorem holdsMark_of_isNullMarked {t : TypeExpr} (h : t.isNullMarked) :
  t.HoldsMark
  := ⟨t, Within.self, h⟩

/-- A type without a mark of its own has those of its parts. -/
theorem holdsMark_iff_parts {t : TypeExpr} (h : t.isNullMarked = false) :
  t.HoldsMark ↔ ∃ u ∈ t.parts, u.HoldsMark
  := by
  constructor
  · rintro ⟨p, hw, hp⟩
    cases hw with
    | self =>
      rw [h] at hp
      cases hp
    | part hu hw => exact ⟨_, hu, p, hw, hp⟩
  · rintro ⟨u, hu, p, hw, hp⟩
    exact ⟨p, Within.part hu hw, hp⟩

theorem not_holdsMark_of_parts {t : TypeExpr} (h : t.isNullMarked = false) (hp : t.parts = []) :
  ¬ t.HoldsMark
  := by
  rw [holdsMark_iff_parts h, hp]
  rintro ⟨u, hu, -⟩
  cases hu

/-- A mark for null in a name with arguments is in one of these. -/
theorem holdsMark_application (n : String) (ts : List TypeExpr) :
  (application (name n) ts).HoldsMark ↔ ∃ t ∈ ts, t.HoldsMark
  := by
  have hname : ¬ (name n).HoldsMark := not_holdsMark_of_parts rfl rfl
  simp [holdsMark_iff_parts (t := application (name n) ts) rfl, parts, hname]

/-- A type around another one has its marks for null. -/
theorem holdsMark_iff_of_parts {t u : TypeExpr} (h : t.isNullMarked = false) (hp : t.parts = [u]) :
  t.HoldsMark ↔ u.HoldsMark
  := by
  simp [holdsMark_iff_parts h, hp]

theorem holdsMark_alternatives (t : TypeExpr) (ts : List TypeExpr) :
  (alternatives t ts).HoldsMark ↔ t.HoldsMark ∨ ∃ u ∈ ts, u.HoldsMark
  := by
  cases ts with
  | nil => simp [alternatives]
  | cons u us => simp [alternatives, holdsMark_iff_parts (t := union (t :: u :: us)) rfl, parts]

theorem holdsMark_parenthesized (t : TypeExpr) :
  (parenthesized t).HoldsMark ↔ t.HoldsMark
  := by
  cases t with
  | union ts => rfl
  | _ => apply holdsMark_iff_of_parts rfl rfl

/-! ### Marks in a text -/

/-- A question or exclamation mark stands in the text. -/
def HasMark (cs : List Char) : Prop :=
  '?' ∈ cs ∨ '!' ∈ cs

instance (cs : List Char) : Decidable (HasMark cs) :=
  inferInstanceAs (Decidable ('?' ∈ cs ∨ '!' ∈ cs))

theorem hasMark_append {cs ds : List Char} :
  HasMark (cs ++ ds) ↔ HasMark cs ∨ HasMark ds
  := by
  simp only [HasMark, List.mem_append]
  tauto

/-- No character of a class without the two marks is a mark. -/
theorem not_hasMark_of_all {p : Char → Bool} {cs : List Char} (h : ∀ c ∈ cs, p c)
    (hp : p '?' = false ∧ p '!' = false) :
  ¬ HasMark cs
  := by
  rintro (hc | hc)
  · rw [h _ hc] at hp
    cases hp.1
  · rw [h _ hc] at hp
    cases hp.2

/-- From `cs` on to `r`, a mark stands exactly if `P` holds. -/
def Passes (P : Prop) (cs r : List Char) : Prop :=
  ∃ ds, cs = ds ++ r ∧ (HasMark ds ↔ P)

namespace Passes

variable {P Q : Prop} {cs r q : List Char}

theorem refl (cs : List Char) :
  Passes False cs cs
  := by
  use []
  simp [HasMark]

theorem congr (h : Passes P cs r) (hpq : P ↔ Q) :
  Passes Q cs r
  := by
  obtain ⟨ds, hcs, hd⟩ := h
  exact ⟨ds, hcs, hd.trans hpq⟩

theorem trans (h : Passes P cs r) (h' : Passes Q r q) :
  Passes (P ∨ Q) cs q
  := by
  obtain ⟨ds, rfl, hd⟩ := h
  obtain ⟨es, rfl, he⟩ := h'
  use ds ++ es
  rw [List.append_assoc, hasMark_append, hd, he]
  exact ⟨rfl, Iff.rfl⟩

/-- Text without a mark may stand before. -/
theorem after (h : Passes False cs r) (h' : Passes Q r q) :
  Passes Q cs q
  := (h.trans h').congr (iff_of_eq (false_or Q))

/-- Text without a mark may follow. -/
theorem before (h : Passes P cs r) (h' : Passes False r q) :
  Passes P cs q
  := (h.trans h').congr (iff_of_eq (or_false P))

theorem trimLeft (cs : List Char) :
  Passes False cs (Text.trimLeft cs)
  := by
  obtain ⟨ws, hws, hcs⟩ := Text.exists_append_trimLeft cs
  use ws, hcs
  rw [iff_false]
  apply not_hasMark_of_all hws
  decide

end Passes

theorem Next.passes {t : String} {cs r : List Char} (h : Next t cs r) :
  Passes (HasMark t.toList) cs r
  := by
  apply (Passes.trimLeft cs).after
  rw [h]
  exact ⟨t.toList, rfl, Iff.rfl⟩

/-- A token that is no mark is passed without one. -/
theorem Next.passes_unmarked {t : String} {cs r : List Char} (h : Next t cs r)
    (ht : ¬ HasMark t.toList := by decide) :
  Passes False cs r
  := h.passes.congr (iff_false_intro ht)

theorem NextName.passes {n cs r : List Char} (h : NextName n cs r) :
  Passes False cs r
  := by
  apply (Passes.trimLeft cs).after
  rw [h.eq_append]
  use n, rfl
  rw [iff_false]
  apply not_hasMark_of_all fun c hc => h.isNameChar_of_mem hc
  decide

/-! ### Phrases -/

/-- A mark stands in the text of the phrase exactly if one is in what it stands for.  Marks after a
type are not marks for null. -/
def Phrase.Passes (cs r : List Char) : Phrase → Prop
  | .union t | .marked t | .primary t | .named t => TypeExpr.Passes t.HoldsMark cs r
  | .alternatives ts | .arguments ts | .params ts | .moreParams ts =>
    TypeExpr.Passes (∃ t ∈ ts, t.HoldsMark) cs r
  | .suffixes t t' => TypeExpr.Passes False cs r ∧ (t.HoldsMark ↔ t'.HoldsMark)
  | .result t => TypeExpr.Passes (∃ u ∈ t, u.HoldsMark) cs r
  | .fields fs => TypeExpr.Passes (∃ t ∈ fs.map Prod.snd, t.HoldsMark) cs r

/-- A mark for null before a type is one in the text and one in the type. -/
theorem Next.passes_mark {m : String} {cs r r' : List Char} {t u : TypeExpr} (h : Next m cs r)
    (hm : HasMark m.toList) (ht : Passes t.HoldsMark r r') (hu : u.isNullMarked) :
  Passes u.HoldsMark cs r'
  := by
  apply (h.passes.trans ht).congr
  exact iff_of_true (.inl hm) (holdsMark_of_isNullMarked hu)

theorem Reads.passes {cs r : List Char} {p : Phrase} (h : Reads cs p r) :
  p.Passes cs r
  := by
  -- Marks are tokens of two rules only, and these make a type that is marked itself.
  induction h with
  | union _ _ ih₁ ih₂ => apply (Passes.trans ih₁ ih₂).congr (holdsMark_alternatives _ _).symm
  | bar h _ _ ih₁ ih₂ =>
    apply (h.passes_unmarked.after (Passes.trans ih₁ ih₂)).congr
    simp
  | nullable h _ ih => apply h.passes_mark (by decide) ih rfl
  | nonNullable h _ ih => apply h.passes_mark (by decide) ih rfl
  | rest h _ ih => apply (h.passes_unmarked.after ih).congr (holdsMark_iff_of_parts rfl rfl).symm
  | unmarked _ _ _ _ _ ih₁ ih₂ => apply (Passes.before ih₁ ih₂.1).congr ih₂.2
  | array h _ ih =>
    use h.passes_unmarked.after ih.1
    rw [← ih.2, holdsMark_application]
    simp
  | optional h _ ih =>
    use h.passes_unmarked.after ih.1
    exact (holdsMark_iff_of_parts rfl rfl).symm.trans ih.2
  | noSuffix _ _ => exact ⟨Passes.refl _, Iff.rfl⟩
  | all h => apply h.passes_unmarked.congr (iff_of_false id (not_holdsMark_of_parts rfl rfl))
  | group h _ h' ih =>
    apply ((h.passes_unmarked.after ih).before h'.passes_unmarked).congr
    rw [holdsMark_parenthesized]
  | emptyRecord h h' =>
    apply (h.passes_unmarked.after h'.passes_unmarked).congr
    exact iff_of_false id (not_holdsMark_of_parts rfl rfl)
  | record h _ _ ih =>
    apply (h.passes_unmarked.after ih).congr
    rw [holdsMark_iff_parts (t := TypeExpr.record _) rfl, parts]
  | named _ _ ih => apply ih
  | null h => apply h.passes.congr (iff_of_false id (not_holdsMark_of_parts rfl rfl))
  | function h _ _ ih₁ ih₂ =>
    apply (h.passes.after (Passes.trans ih₁ ih₂)).congr
    rw [holdsMark_iff_parts (t := TypeExpr.function _ _) rfl]
    simp [parts, or_and_right, exists_or]
  | application h _ h' _ ih =>
    have hopen := h'.elim Next.passes_unmarked Next.passes_unmarked
    apply ((h.passes.after hopen).after ih).congr (holdsMark_application _ _).symm
  | name h _ _ _ _ => apply h.passes.congr (iff_of_false id (not_holdsMark_of_parts rfl rfl))
  | argument _ h _ ih₁ ih₂ =>
    apply ((Passes.before ih₁ h.passes_unmarked).trans ih₂).congr
    simp
  | lastArgument _ h ih =>
    apply (Passes.before ih h.passes_unmarked).congr
    simp
  | noParams h h' =>
    apply (h.passes_unmarked.after h'.passes_unmarked).congr
    simp
  | params h _ _ ih => apply h.passes_unmarked.after ih
  | param _ h _ ih₁ ih₂ =>
    apply ((Passes.before ih₁ h.passes_unmarked).trans ih₂).congr
    simp
  | lastParam _ h ih =>
    apply (Passes.before ih h.passes_unmarked).congr
    simp
  | result h _ ih =>
    apply (h.passes_unmarked.after ih).congr
    simp
  | noBar _ | noResult _ =>
    apply (Passes.refl _).congr
    simp
  | field hk hc _ h _ ih₁ ih₂ =>
    have hvalue := (hk.passes.after hc.passes_unmarked).after ih₁
    apply ((Passes.before hvalue h.passes_unmarked).trans ih₂).congr
    simp
  | lastField hk hc _ h ih =>
    have hvalue := (hk.passes.after hc.passes_unmarked).after ih
    apply (Passes.before hvalue h.passes_unmarked).congr
    simp

/-! ### Whole texts -/

/-- A type that is read holds a mark for null exactly if one stands in its text. -/
theorem hasMark_iff_of_parse {s : String} {t : TypeExpr} (h : parse s = .ok t) :
  HasMark s.toList ↔ t.HoldsMark
  := by
  obtain ⟨r, hr, hblank⟩ := parse_eq_ok_iff.1 h
  have hend := Passes.trimLeft r
  rw [hblank] at hend
  obtain ⟨ds, hs, hd⟩ := Passes.before hr.passes hend
  rw [hs, List.append_nil, hd]

/-- What keeps a type that is read from being displayed is a type within it with a mark for
null. -/
theorem Shaped.within_of_format_eq_error {s : Spelling} {t p : TypeExpr} (h : Shaped s t)
    (hf : t.format = .error p) :
  Within t p ∧ p.isNullMarked
  := by
  rcases displays_format t with ⟨out, hok, -⟩ | ⟨p', herror, hp, u, hu, hw⟩
  · rw [hok] at hf
    cases hf
  · rw [herror] at hf
    cases hf
    rw [List.mem_singleton.1 hu] at hw
    exact ⟨hw, h.isNullMarked_of_within hw hp⟩

theorem HoldsMark.exists_format_eq_error {t : TypeExpr} (h : t.HoldsMark) :
  ∃ p, t.format = .error p
  := by
  obtain ⟨p, hw, hp⟩ := h
  rcases displays_format t with ⟨out, -, hall⟩ | ⟨q, herror, -⟩
  · have hdisplayed := hall t List.mem_cons_self p hw
    rw [isDisplayed_eq_false_of_isNullMarked hp] at hdisplayed
    cases hdisplayed
  · exact ⟨q, herror⟩

theorem exists_of_isNullMarked {t : TypeExpr} (h : t.isNullMarked) :
  ∃ e, t = nullable e ∨ t = nonNullable e
  := by
  cases t with
  | nullable e => exact ⟨e, .inl rfl⟩
  | nonNullable e => exact ⟨e, .inr rfl⟩
  | _ => cases h

/-- A type that is read is displayed exactly if its text has no question or exclamation mark.
Else a type within it is returned, and that is marked as with or without null. -/
theorem format_of_parse {s : String} {t : TypeExpr} (h : parse s = .ok t) :
  ((∃ p, t.format = .error p) ↔ '?' ∈ s.toList ∨ '!' ∈ s.toList)
    ∧ (∀ p, t.format = .error p → Within t p ∧ ∃ e, p = nullable e ∨ p = nonNullable e)
    ∧ (¬ ('?' ∈ s.toList ∨ '!' ∈ s.toList) → ∃ out, t.format = .ok out)
  := by
  have hshaped := shaped_of_parse h
  have hmark : (∃ p, t.format = .error p) ↔ HasMark s.toList := by
    rw [hasMark_iff_of_parse h]
    constructor
    · rintro ⟨p, hp⟩
      exact ⟨p, hshaped.within_of_format_eq_error hp⟩
    · apply HoldsMark.exists_format_eq_error
  refine ⟨hmark, ?_, ?_⟩
  · intro p hp
    obtain ⟨hw, hnull⟩ := hshaped.within_of_format_eq_error hp
    exact ⟨hw, exists_of_isNullMarked hnull⟩
  · intro hnone
    cases hf : t.format with
    | ok out => exact ⟨out, rfl⟩
    | error p => exact absurd (hmark.1 ⟨p, hf⟩) hnone

/-- Two marks stand in the text of `callback`, and the first one keeps it from being displayed. -/
theorem format_of_parse_callback :
  parse (source callback) = .ok callback ∧ callback.format = .error (nullable all)
    ∧ Within callback (nullable all)
    ∧ ('?' ∈ (source callback).toList ∨ '!' ∈ (source callback).toList)
  := by
  have hparse := parse_source shaped_callback
  have herror : callback.format = .error (nullable all) := rfl
  obtain ⟨hiff, hwithin, -⟩ := format_of_parse hparse
  exact ⟨hparse, herror, (hwithin _ herror).1, hiff.1 ⟨_, herror⟩⟩

end DocPages.TypeExpr

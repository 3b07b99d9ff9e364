import DocPages.Association
import DocPages.Proofs.Doclet.Encoding
import DocPages.Proofs.Text.Lines
import Mathlib.Data.List.Forall2
import Mathlib.Tactic.Common

/-!
# Text between delimiters

`Inner v s` says what should be left of a text `v` between the delimiters of a comment: the text
without a star at its start, without the gutters of its lines and without outer blanks.  That is
what `unwrapComment` leaves, unless `v` is empty: the star of the closing delimiter is then taken
for the second star of the opening one, and a slash is left.  So a comment of nothing but blanks
documents nothing, but a comment of nothing at all is documentation.
-/

namespace DocPages.Doclet

open Text (Trimmed)

/-! ### Gutters -/

/-- The line starts with blanks and a star that no slash follows. -/
def HasGutter (line : List Char) : Prop :=
  ∃ ws r, (∀ w ∈ ws, Text.isBlank w) ∧ r.head? ≠ some '/' ∧ line = ws ++ '*' :: r

/-- `Bared line r`: without its gutter, if it has one, and at most one space after it, the line
is `r`. -/
inductive Bared : List Char → List Char → Prop where
  | spaced {ws r : List Char} :
      (∀ w ∈ ws, Text.isBlank w) → Bared (ws ++ '*' :: ' ' :: r) r
  | bare {ws r : List Char} :
      (∀ w ∈ ws, Text.isBlank w) → r.head? ≠ some '/' → r.head? ≠ some ' ' →
      Bared (ws ++ '*' :: r) r
  | whole {line : List Char} :
      ¬ HasGutter line → Bared line line

theorem trimLeft_star {ws : List Char} (h : ∀ w ∈ ws, Text.isBlank w) (r : List Char) :
  Text.trimLeft (ws ++ '*' :: r) = '*' :: r
  := by
  rw [Text.trimLeft_append_of_blank h, Text.trimLeft_cons_of_not (by decide)]

theorem bared_withoutGutter (line : List Char) :
  Bared line (withoutGutter line)
  := by
  obtain ⟨ws, hws, hline⟩ := Text.exists_append_trimLeft line
  unfold withoutGutter
  split
  · rename_i r hr
    apply Bared.whole
    rintro ⟨us, q, hus, hq, rfl⟩
    rw [trimLeft_star hus] at hr
    cases hr
    apply hq rfl
  · rename_i r hr
    rw [hr] at hline
    rw [hline]
    apply Bared.spaced hws
  · rename_i r hslash hspace hr
    rw [hr] at hline
    rw [hline]
    apply Bared.bare hws
    · intro hhead
      obtain ⟨q, rfl⟩ := List.head?_eq_some_iff.1 hhead
      apply hslash q rfl
    · intro hhead
      obtain ⟨q, rfl⟩ := List.head?_eq_some_iff.1 hhead
      apply hspace q rfl
  · rename_i hother
    apply Bared.whole
    rintro ⟨us, q, hus, -, rfl⟩
    apply hother q (trimLeft_star hus q)

theorem Bared.eq_of_not_hasGutter {line r : List Char} (h : Bared line r) (hno : ¬ HasGutter line) :
  r = line
  := by
  cases h with
  | spaced hws => exact absurd ⟨_, _, hws, by simp, rfl⟩ hno
  | bare hws hslash => exact absurd ⟨_, _, hws, hslash, rfl⟩ hno
  | whole => rfl

theorem withoutGutter_of_not_hasGutter {line : List Char} (h : ¬ HasGutter line) :
  withoutGutter line = line
  := (bared_withoutGutter line).eq_of_not_hasGutter h

/-- `withoutGutter` is the only way to bare a line. -/
theorem bared_iff {line r : List Char} :
  Bared line r ↔ withoutGutter line = r
  := by
  constructor
  · intro h
    cases h with
    | spaced hws =>
      rw [withoutGutter, trimLeft_star hws]
      rfl
    | bare hws hslash hspace =>
      rw [withoutGutter, trimLeft_star hws]
      cases r with
      | nil => rfl
      | cons c r => simp_all
    | whole hno => apply withoutGutter_of_not_hasGutter hno
  · rintro rfl
    apply bared_withoutGutter

theorem forall₂_bared_iff {ls ms : List (List Char)} :
  List.Forall₂ Bared ls ms ↔ ls.map withoutGutter = ms
  := by
  have hrel : Bared = fun l m => withoutGutter l = m := by
    funext l m
    apply propext bared_iff
  rw [hrel, ← List.forall₂_map_left_iff (R := Eq), List.forall₂_eq_eq_eq]

/-! ### Delimiters -/

/-- The text without a star at its start, if it has one. -/
def withoutStar : List Char → List Char
  | '*' :: cs => cs
  | cs => cs

/-- `Inner v s`: the text `v` without a star at its start, the gutters of its lines and outer
blanks is `s`. -/
def Inner (v s : String) : Prop :=
  ∃ ls, List.Forall₂ Bared (Text.lines (withoutStar v.toList)) ls
    ∧ s = Text.strip (String.ofList (Text.unlines ls))

theorem inner_iff {v s : String} :
  Inner v s ↔ s.toList
    = Text.trim (Text.unlines ((Text.lines (withoutStar v.toList)).map withoutGutter))
  := by
  simp only [Inner, forall₂_bared_iff, exists_eq_left', Text.strip, String.toList_ofList,
    ← String.toList_inj]

/-- A star at the start of a text that is not empty is taken for one of the opening
delimiter. -/
theorem withoutOpening_append {v : List Char} (h : v ≠ []) :
  withoutOpening ('/' :: '*' :: (v ++ ['*', '/'])) = withoutStar v ++ ['*', '/']
  := by
  obtain ⟨c, r, rfl⟩ := List.exists_cons_of_ne_nil h
  by_cases hc : c = '*'
  · rw [hc]
    rfl
  · simp [withoutOpening, withoutStar, hc]

theorem trimmed_delimited (v : List Char) :
  Trimmed ('/' :: '*' :: (v ++ ['*', '/']))
  := by
  constructor
  · intro c hc
    cases hc
    rfl
  · intro c hc
    rw [← List.cons_append, ← List.cons_append, List.getLast?_append] at hc
    cases hc
    rfl

theorem unwrap_delimited {v : List Char} (h : v ≠ []) :
  unwrap ('/' :: '*' :: (v ++ ['*', '/']))
    = Text.trim (Text.unlines ((Text.lines (withoutStar v)).map withoutGutter))
  := by
  rw [unwrap, Text.trim_eq_self_iff.2 (trimmed_delimited v), withoutOpening_append h,
    withoutClosing_append]

theorem toList_delimited (v : String) :
  ("/*" ++ v ++ "*/").toList = '/' :: '*' :: (v.toList ++ ['*', '/'])
  := by
  simp

/-- A slash is left of the delimiters around an empty text. -/
theorem unwrap_delimited_nil :
  unwrap ('/' :: '*' :: ([] ++ ['*', '/'])) = ['/']
  := by
  decide

/-- The delimiters are removed from around a text exactly if it is not empty. -/
theorem inner_unwrapComment_iff (v : String) :
  Inner v (unwrapComment ("/*" ++ v ++ "*/")) ↔ v ≠ ""
  := by
  rw [inner_iff, unwrapComment, toList_delimited, String.toList_ofList]
  constructor
  · rintro h rfl
    rw [String.toList_empty, unwrap_delimited_nil] at h
    exact absurd h (by decide)
  · intro hne
    apply unwrap_delimited (toList_ne_nil hne)

/-! ### Blank comments -/

/-- No line of a blank text has a gutter. -/
theorem not_hasGutter_of_blank {v l : List Char} (h : ∀ c ∈ v, Text.isBlank c)
    (hl : l ∈ Text.lines v) :
  ¬ HasGutter l
  := by
  rintro ⟨ws, r, -, -, rfl⟩
  have hstar : '*' ∈ v := by
    rw [← Text.unlines_lines v]
    apply Text.mem_unlines hl
    simp
  exact absurd (h _ hstar) (by decide)

theorem unwrap_blank {v : List Char} (h : ∀ c ∈ v, Text.isBlank c) (hne : v ≠ []) :
  unwrap ('/' :: '*' :: (v ++ ['*', '/'])) = []
  := by
  have hstar : withoutStar v = v := by
    unfold withoutStar
    split
    · exact absurd (h '*' List.mem_cons_self) (by decide)
    · rfl
  have hlines : (Text.lines v).map withoutGutter = Text.lines v := by
    rw [List.map_congr_left (g := id), List.map_id]
    intro l hl
    apply withoutGutter_of_not_hasGutter (not_hasGutter_of_blank h hl)
  rw [unwrap_delimited hne, hstar, hlines, Text.unlines_lines, Text.trim,
    Text.trimLeft, List.dropWhile_eq_nil_iff.2 h]
  rfl

/-- A blank comment that is not empty says nothing. -/
theorem ofComment_blank {c : Comment} (h : ∀ d ∈ c.value.toList, Text.isBlank d)
    (hne : c.value ≠ "") :
  ofComment c = .ok {}
  := by
  rw [ofComment, read, toList_delimited, unwrap_blank h (toList_ne_nil hne)]
  rfl

/-- An empty comment says a slash. -/
theorem ofComment_empty {c : Comment} (h : c.value = "") :
  ofComment c = .ok { description := "/" }
  := by
  rw [ofComment, read, toList_delimited, h, String.toList_empty, unwrap_delimited_nil]
  rfl

theorem associate_append_cons (index : List (Int × List Handle)) (c : Comment)
    (cs ds : List Comment) :
  (associate index (cs ++ c :: ds)).2
    = (associate index cs).2 ++ ((associateOne index c).2.toList ++ (associate index ds).2)
  := by
  cases hm : (associateOne index c).2 <;> simp [associate, hm]

/-- A blank comment that is not empty documents nothing. -/
theorem associate_blank {c : Comment} (h : ∀ d ∈ c.value.toList, Text.isBlank d)
    (hne : c.value ≠ "") (index : List (Int × List Handle)) (cs ds : List Comment) :
  (associate index (cs ++ c :: ds)).2 = (associate index (cs ++ ds)).2
  := by
  have hnone : (associateOne index c).2 = none := by
    rw [associateOne, ofComment_blank h hne]
    cases index.lookup (c.extent.last + 1) with
    | none => rfl
    | some functions => rfl
  rw [associate_append_cons, hnone]
  exact List.filterMap_append.symm

/-- An empty comment before functions documents them. -/
theorem associate_empty {c : Comment} (h : c.value = "") {index : List (Int × List Handle)}
    {functions : List Handle} (hf : index.lookup (c.extent.last + 1) = some functions)
    (cs ds : List Comment) :
  (associate index (cs ++ c :: ds)).2
    = (associate index cs).2 ++ ⟨functions, { description := "/" }⟩ :: (associate index ds).2
  := by
  have hsome : (associateOne index c).2 = some ⟨functions, { description := "/" }⟩ := by
    rw [associateOne, hf, ofComment_empty h]
    rfl
  rw [associate_append_cons, hsome]
  rfl

/-- The delimiters around a text are removed exactly if it is not empty, and among the blank
comments it is those that are not empty that say and document nothing. -/
theorem unwrapComment_delimited_iff (v : String) {c : Comment}
    (hc : ∀ d ∈ c.value.toList, Text.isBlank d) :
  (Inner v (unwrapComment ("/*" ++ v ++ "*/")) ↔ v ≠ "")
    ∧ (ofComment c = .ok {} ↔ c.value ≠ "")
    ∧ ((∀ index cs ds, (associate index (cs ++ c :: ds)).2 = (associate index (cs ++ ds)).2)
      ↔ c.value ≠ "")
  := by
  refine ⟨inner_unwrapComment_iff v, ?_, ?_⟩
  · constructor
    · intro hnothing hempty
      rw [ofComment_empty hempty] at hnothing
      simp at hnothing
    · apply ofComment_blank hc
  · constructor
    · intro hnone hempty
      -- A function on the next line is documented, although there is no other comment.
      have hlookup : [(c.extent.last + 1, [0])].lookup (c.extent.last + 1) = some [0] := by simp
      have hone := associate_empty hempty hlookup [] []
      rw [hnone] at hone
      simp [associate] at hone
    · apply associate_blank hc

/-- A comment of a line feed and a space. -/
def blankComment : Comment where
  value := "\n "
  extent := ⟨0, 1⟩

theorem unwrapComment_delimited_iff_blankComment :
  (∀ d ∈ blankComment.value.toList, Text.isBlank d)
    ∧ Inner "* Foo.\n * Bar. " (unwrapComment ("/*" ++ "* Foo.\n * Bar. " ++ "*/"))
    ∧ ofComment blankComment = .ok {}
    ∧ ∀ index cs ds,
      (associate index (cs ++ blankComment :: ds)).2 = (associate index (cs ++ ds)).2
  := by
  have hblank : ∀ d ∈ blankComment.value.toList, Text.isBlank d := List.all_eq_true.1 rfl
  have hne : blankComment.value ≠ "" := by decide
  obtain ⟨hinner, hnothing, hnone⟩ := unwrapComment_delimited_iff "* Foo.\n * Bar. " hblank
  exact ⟨hblank, hinner.2 (by decide), hnothing.2 hne, hnone.2 hne⟩

/-- The delimiters of an empty comment leak: a line comment of nothing says a slash, which
documents the function on the next line. -/
theorem not_inner_unwrapComment_empty :
  ¬ Inner "" (unwrapComment ("/*" ++ "" ++ "*/"))
    ∧ ofComment { value := "", extent := ⟨0, 0⟩, kind := .line } ≠ .ok {}
    ∧ (associate [(1, [0])] [{ value := "", extent := ⟨0, 0⟩, kind := .line }]).2
      = [⟨[0], { description := "/" }⟩]
  := by
  refine ⟨?_, ?_, ?_⟩
  · rw [inner_unwrapComment_iff]
    simp
  · rw [ofComment_empty rfl]
    simp
  · apply associate_empty rfl rfl [] []

end DocPages.Doclet

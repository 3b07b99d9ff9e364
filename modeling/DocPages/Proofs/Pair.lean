import DocPages.Pair
import DocPages.Proofs.Text.Lines
import Mathlib.Data.List.Infix

/-!
# Where a line is cut

A line is a pair exactly if there are two slashes in it, and it is cut at the last two.  What stands
before them is the code.  What stands after them is the comment, without spaces and an arrow at its
start.  So a line that is put together from code and a comment comes apart again, if there are no
slashes in the comment.  A text has a pair for each of its lines with slashes, and the lines before
the first of them are its preamble.
-/

namespace DocPages

namespace Pair

/-- What a comment starts with. -/
def slashes : List Char := ['/', '/']

/-- What may stand at the start of a comment. -/
def arrow : List Char := ['=', '>']

/-- The last two slashes of a text stand at `j`. -/
structure LastSlashes (cs : List Char) (j : Nat) : Prop where
  found : slashes <+: cs.drop j
  last : ∀ i, slashes <+: cs.drop i → i ≤ j

/-- A comment without the spaces at its start, and without the arrow that may follow them. -/
def withoutArrow (cs : List Char) : List Char :=
  let r := cs.dropWhile (· == ' ')
  if arrow <+: r then r.drop 2 else r

/-! ### The last slashes -/

theorem isInfix_append_slashes (us vs : List Char) :
  slashes <:+: us ++ '/' :: '/' :: vs
  := ⟨us, vs, by simp [slashes]⟩

/-- A text with slashes in it can be cut at the last ones. -/
theorem exists_append_slashes {cs : List Char} (h : slashes <:+: cs) :
  ∃ us vs, cs = us ++ '/' :: '/' :: vs ∧ ¬ slashes <:+: '/' :: vs
  := by
  induction cs with
  | nil => exact absurd (List.eq_nil_of_infix_nil h) (by decide)
  | cons c cs ih =>
    by_cases hcs : slashes <:+: cs
    · obtain ⟨us, vs, rfl, hlast⟩ := ih hcs
      exact ⟨c :: us, vs, rfl, hlast⟩
    · rcases List.infix_cons_iff.1 h with ⟨vs, hvs⟩ | hinfix
      · obtain ⟨rfl, rfl⟩ := List.cons.inj hvs
        exact ⟨[], vs, rfl, hcs⟩
      · exact absurd hinfix hcs

theorem lastSlashes_length {us vs : List Char} (h : ¬ slashes <:+: '/' :: vs) :
  LastSlashes (us ++ '/' :: '/' :: vs) us.length
  := by
  constructor
  · rw [List.drop_left]
    exact ⟨vs, rfl⟩
  · intro i hi
    by_contra hlt
    -- Slashes further on would stand in what follows the first of the two.
    obtain ⟨k, hk⟩ := Nat.exists_eq_add_of_lt (Nat.lt_of_not_le hlt)
    rw [hk, Nat.add_assoc, List.drop_length_add_append, List.drop_succ_cons] at hi
    apply h (hi.isInfix.trans (List.drop_suffix k _).isInfix)

/-! ### Lines -/

theorem getD_after?_arrow (cs : List Char) :
  (Text.after? ['=', '>'] (cs.dropWhile (· == ' '))).getD (cs.dropWhile (· == ' '))
    = withoutArrow cs
  := by
  rw [withoutArrow, ← arrow]
  generalize cs.dropWhile (· == ' ') = r
  split
  · rename_i h
    obtain ⟨r', rfl⟩ := h
    rw [Text.after?_append]
    rfl
  · rename_i h
    cases ha : Text.after? arrow r with
    | none => rfl
    | some r' => exact absurd ⟨r', (Text.after?_eq_some_iff.1 ha).symm⟩ h

theorem withoutArrow_sublist (cs : List Char) :
  (withoutArrow cs).Sublist cs
  := by
  have hspaces : (cs.dropWhile (· == ' ')).Sublist cs := List.dropWhile_sublist _
  rw [withoutArrow]
  split
  · exact (List.drop_sublist 2 _).trans hspaces
  · exact hspaces

/-- The comment after slashes in a line. -/
theorem comment?_slashes {vs : List Char} (h : '\n' ∉ vs) :
  comment? ('/' :: '/' :: vs) = some (Text.trimLeft (withoutArrow vs))
  := by
  have hsub : (Text.trimLeft (withoutArrow vs)).Sublist vs :=
    (List.dropWhile_sublist _).trans (withoutArrow_sublist vs)
  have hline : ∀ c ∈ Text.trimLeft (withoutArrow vs), (c != '\n') = true := by
    intro c hc
    rw [bne_iff_ne]
    rintro rfl
    exact h (hsub.subset hc)
  have hslash : Text.trimLeft ('/' :: '/' :: vs) = '/' :: '/' :: vs :=
    Text.trimLeft_cons_of_not (by decide) _
  simp only [comment?, hslash, getD_after?_arrow, List.takeWhile_eq_self_iff.2 hline,
    List.dropWhile_eq_nil_iff.2 hline]

theorem isInfix_of_comment? {cs line : List Char} (h : comment? cs = some line) :
  slashes <:+: cs
  := by
  rw [comment?] at h
  split at h
  · rename_i r hr
    obtain ⟨ws, -, hws⟩ := Text.exists_append_trimLeft cs
    rw [hws, hr]
    apply isInfix_append_slashes
  · cases h

theorem split?_eq_none {cs : List Char} (h : ¬ slashes <:+: cs) :
  split? cs = none
  := by
  induction cs with
  | nil => rfl
  | cons c cs ih =>
    have htail : split? cs = none := ih fun hcs => h (List.infix_cons hcs)
    have hcomment : comment? (c :: cs) = none := by
      cases hc : comment? (c :: cs) with
      | none => rfl
      | some line => exact absurd (isInfix_of_comment? hc) h
    rw [split?, htail, ite_self, hcomment]
    rfl

/-- A line is cut at its last slashes. -/
theorem split?_append {us vs : List Char} (hu : '\n' ∉ us) (hv : '\n' ∉ vs)
    (hlast : ¬ slashes <:+: '/' :: vs) :
  split? (us ++ '/' :: '/' :: vs) = some (us, Text.trimLeft (withoutArrow vs))
  := by
  induction us with
  | nil =>
    rw [List.nil_append, split?, split?_eq_none hlast, ite_self, comment?_slashes hv]
    rfl
  | cons u us ih =>
    rw [List.mem_cons, not_or] at hu
    rw [List.cons_append, split?, if_neg (Ne.symm hu.1), ih hu.2]

/-- A line without slashes is no pair. -/
theorem parse?_eq_none {line : String} (h : ¬ slashes <:+: line.toList) :
  parse? line = none
  := by
  rw [parse?, split?_eq_none h]
  rfl

theorem parse?_append {line : String} {us vs : List Char}
    (hline : line.toList = us ++ '/' :: '/' :: vs) (hn : '\n' ∉ line.toList)
    (hlast : ¬ slashes <:+: '/' :: vs) :
  parse? line
    = some ⟨String.ofList (Text.trim us), String.ofList (Text.trim (withoutArrow vs))⟩
  := by
  rw [hline, List.mem_append, not_or, List.mem_cons, List.mem_cons, not_or, not_or] at hn
  rw [parse?, hline, split?_append hn.1 hn.2.2.2 hlast, Option.map_some, Text.trim_trimLeft]

/-- A line with slashes is a pair, and it is cut at the last ones. -/
theorem exists_lastSlashes {line : String} (hn : '\n' ∉ line.toList)
    (h : slashes <:+: line.toList) :
  ∃ j, LastSlashes line.toList j
    ∧ parse? line = some
      ⟨String.ofList (Text.trim (line.toList.take j)),
        String.ofList (Text.trim (withoutArrow (line.toList.drop (j + 2))))⟩
  := by
  obtain ⟨us, vs, hline, hlast⟩ := exists_append_slashes h
  use us.length
  rw [parse?_append hline hn hlast, hline]
  use lastSlashes_length hlast
  rw [List.take_left, List.drop_length_add_append]
  rfl

theorem isSome_parse?_iff {line : String} (hn : '\n' ∉ line.toList) :
  (parse? line).isSome ↔ slashes <:+: line.toList
  := by
  constructor
  · intro hsome
    by_contra h
    rw [parse?_eq_none h] at hsome
    cases hsome
  · intro h
    obtain ⟨j, -, hj⟩ := exists_lastSlashes hn h
    rw [hj]
    rfl

/-- The sides of a pair are trimmed. -/
theorem trimmed_of_parse? {line : String} {p : Pair} (h : parse? line = some p) :
  Text.Trimmed p.left.toList ∧ Text.Trimmed p.right.toList
  := by
  obtain ⟨parts, -, rfl⟩ := Option.map_eq_some_iff.1 h
  rw [String.toList_ofList, String.toList_ofList]
  exact ⟨Text.trimmed_trim _, Text.trimmed_trim _⟩

/-- The pair of a line that is put together from its two sides. -/
theorem parse?_arrow {l r : String} (hl : '\n' ∉ l.toList) (hr : '\n' ∉ r.toList)
    (hleft : Text.strip l = l) (hright : Text.strip r = r) (h : ¬ slashes <:+: r.toList) :
  parse? (l ++ " // => " ++ r) = some ⟨l, r⟩
  := by
  have hline : (l ++ " // => " ++ r).toList
      = (l.toList ++ [' ']) ++ '/' :: '/' :: (' ' :: '=' :: '>' :: ' ' :: r.toList) := by
    simp
  have hn : '\n' ∉ (l ++ " // => " ++ r).toList := by
    rw [hline]
    simp [hl, hr]
  have hlast : ¬ slashes <:+: '/' :: ' ' :: '=' :: '>' :: ' ' :: r.toList := by
    simpa [slashes, List.infix_cons_iff, List.cons_prefix_cons] using h
  have harrow : withoutArrow (' ' :: '=' :: '>' :: ' ' :: r.toList) = ' ' :: r.toList := rfl
  have hblank : ∀ c ∈ [' '], Text.isBlank c := List.forall_mem_singleton.2 rfl
  have htrim : Text.trim (l.toList ++ [' ']) = l.toList :=
    Text.trim_append_of_blank (List.forall_mem_nil _) hblank (Text.strip_eq_self_iff.1 hleft)
  have htrim' : Text.trim (' ' :: r.toList) = r.toList := by
    have := Text.trim_append_of_blank hblank (List.forall_mem_nil _)
      (Text.strip_eq_self_iff.1 hright)
    simpa using this
  rw [parse?_append hline hn hlast, harrow, htrim, htrim', String.ofList_toList,
    String.ofList_toList]

end Pair

/-! ### Blocks -/

/-- Items that are numbered by their places have the numbers from one on. -/
theorem map_succ_zipIdx {α : Type} (xs : List α) :
  (xs.zipIdx.map fun x => x.2 + 1) = List.range' 1 xs.length
  := by
  have hplaces : (xs.zipIdx.map Prod.snd).map (1 + ·) = List.range' 1 xs.length := by
    rw [List.zipIdx_map_snd, List.map_add_range']
  rw [← hplaces, List.map_map]
  apply List.map_congr_left
  intro x _
  apply Nat.add_comm

/-- The answers to items for which there is one belong to these items, in their order. -/
theorem forall₂_filterMap {α β : Type} {f : α → Option β} {p : α → Bool} {xs : List α}
    (h : ∀ x ∈ xs, (f x).isSome = p x) :
  List.Forall₂ (fun x y => f x = some y) (xs.filter p) (xs.filterMap f)
  := by
  induction xs with
  | nil => apply List.Forall₂.nil
  | cons x xs ih =>
    rw [List.forall_mem_cons] at h
    cases hx : f x with
    | none =>
      rw [hx, Option.isSome_none] at h
      rw [List.filter_cons_of_neg (by simp [← h.1]), List.filterMap_cons_none hx]
      apply ih h.2
    | some y =>
      rw [hx, Option.isSome_some] at h
      rw [List.filter_cons_of_pos h.1.symm, List.filterMap_cons_some hx]
      constructor
      · exact hx
      · apply ih h.2

namespace PairBlock

open Pair (slashes)

/-- What the pairs of a text are: there is one for each line with slashes, in the order of the lines,
and the lines before the first of them are the preamble as they are. -/
structure Splits (text : String) (block : PairBlock) : Prop where
  content_eq : block.content = text
  pairs : List.Forall₂ (fun l p => Pair.parse? (String.ofList l) = some p)
    ((Text.lines text.toList).filter fun l => slashes <:+: l) block.pairs
  preamble_of_slashes : ∀ before l after, Text.lines text.toList = before ++ l :: after →
    (∀ b ∈ before, ¬ slashes <:+: b) → slashes <:+: l →
    block.preamble = String.ofList (Text.unlines before)
  preamble_of_none : (∀ l ∈ Text.lines text.toList, ¬ slashes <:+: l) → block.preamble = text

theorem isSome_parse?_of_mem_lines {cs l : List Char} (hl : l ∈ Text.lines cs) :
  (Pair.parse? (String.ofList l)).isSome ↔ slashes <:+: l
  := by
  have hn : '\n' ∉ (String.ofList l).toList := by
    rw [String.toList_ofList]
    apply Text.not_mem_of_mem_lines hl
  rw [Pair.isSome_parse?_iff hn, String.toList_ofList]

theorem isNone_parse?_of_mem_lines {cs l : List Char} (hl : l ∈ Text.lines cs) :
  (Pair.parse? (String.ofList l)).isNone ↔ ¬ slashes <:+: l
  := by
  rw [← isSome_parse?_of_mem_lines hl, Option.not_isSome_iff_eq_none, Option.isNone_iff_eq_none]

theorem intercalate_map_ofList (ls : List (List Char)) :
  "\n".intercalate (ls.map String.ofList) = String.ofList (Text.unlines ls)
  := by
  rw [← String.toList_inj, String.toList_intercalate, String.toList_ofList, List.map_map]
  simp [Text.unlines, Function.comp_def]

theorem splits_ofText (text : String) :
  Splits text (ofText text)
  := by
  constructor
  · rfl
  · rw [ofText, List.filterMap_map]
    apply forall₂_filterMap
    intro l hl
    apply Bool.eq_iff_iff.2
    rw [decide_eq_true_iff]
    apply isSome_parse?_of_mem_lines hl
  · intro before l after hlines hbefore hl
    have hmem : ∀ b ∈ before ++ l :: after, b ∈ Text.lines text.toList := by
      rw [hlines]
      intro b hb
      exact hb
    rw [ofText, hlines, List.map_append, List.map_cons, List.takeWhile_append_of_pos,
      List.takeWhile_cons_of_neg, List.append_nil, intercalate_map_ofList]
    · rw [isNone_parse?_of_mem_lines (hmem l (List.mem_append_right _ List.mem_cons_self)), not_not]
      exact hl
    · rw [List.forall_mem_map]
      intro b hb
      apply (isNone_parse?_of_mem_lines (hmem b (List.mem_append_left _ hb))).2 (hbefore b hb)
  · intro hnone
    have hall : ∀ s ∈ (Text.lines text.toList).map String.ofList, (Pair.parse? s).isNone := by
      rw [List.forall_mem_map]
      intro l hl
      apply (isNone_parse?_of_mem_lines hl).2 (hnone l hl)
    rw [ofText, List.takeWhile_eq_self_iff.2 hall, intercalate_map_ofList, Text.unlines_lines,
      String.ofList_toList]

end PairBlock

namespace Pair

/-- A line is a pair exactly if it has slashes, and it is cut at the last ones; so the two sides of a
line come apart again, and the lines of a text with slashes are its pairs. -/
theorem parse?_cuts_last :
  (∀ line : String, '\n' ∉ line.toList →
      (parse? line = none ↔ ¬ slashes <:+: line.toList)
        ∧ (slashes <:+: line.toList → ∃ j, LastSlashes line.toList j
          ∧ parse? line = some
            ⟨String.ofList (Text.trim (line.toList.take j)),
              String.ofList (Text.trim (withoutArrow (line.toList.drop (j + 2))))⟩))
    ∧ (∀ l r : String, '\n' ∉ l.toList → '\n' ∉ r.toList → Text.strip l = l → Text.strip r = r →
      ¬ slashes <:+: r.toList → parse? (l ++ " // => " ++ r) = some ⟨l, r⟩)
    ∧ ∀ text : String, PairBlock.Splits text (PairBlock.ofText text)
  := by
  refine ⟨?_, ?_, PairBlock.splits_ofText⟩
  · intro line hn
    constructor
    · rw [← isSome_parse?_iff hn, Option.not_isSome_iff_eq_none]
    · apply exists_lastSlashes hn
  · intro l r hl hr hleft hright
    apply parse?_arrow hl hr hleft hright

theorem parse?_cuts_last_overlap :
  (∃ j, LastSlashes "cut(\"//\") ///=> 2".toList j)
    ∧ parse? "cut(\"//\") ///=> 2" = some ⟨"cut(\"//\") /", "2"⟩
    ∧ parse? ("a // b" ++ " // => " ++ "=> c / d") = some ⟨"a // b", "=> c / d"⟩
    ∧ PairBlock.Splits "a\n\nb // c" (PairBlock.ofText "a\n\nb // c")
  := by
  obtain ⟨hline, harrow, htext⟩ := parse?_cuts_last
  obtain ⟨-, hcut⟩ := hline "cut(\"//\") ///=> 2" (by decide +kernel)
  obtain ⟨j, hj, -⟩ := hcut (by decide +kernel)
  refine ⟨⟨j, hj⟩, by decide +kernel, ?_, htext _⟩
  apply harrow
  · decide
  · decide
  · decide +kernel
  · decide +kernel
  · decide +kernel

end Pair

end DocPages

import DocPages.Page.Layout
import DocPages.Proofs.Text.Search
import Mathlib.Data.List.Basic
import Mathlib.Tactic.Common

/-!
# The markup of pieces

The markup of a page is that of its pieces, one after the other.  In tidy pieces there is no quote
outside of links, since the quotes of data are escaped, so whatever looks like a link in their
markup is one of the links.
-/

namespace DocPages

/-! ### Escaped text -/

namespace Markup

theorem quote_not_mem_escapeAttribute (s : String) :
  '"' ∉ (escapeAttribute s).toList
  := by
  have hchar : ∀ c, '"' ∉ escapeAttributeChar c := by
    intro c
    unfold escapeAttributeChar escapeChar
    split_ifs with h
    · decide
    · decide
    · decide
    · decide
    · decide
    · simpa [eq_comm] using h
  rw [escapeAttribute, String.toList_ofList]
  intro hmem
  obtain ⟨c, -, hc⟩ := List.mem_flatMap.1 hmem
  exact hchar c hc

/-- The characters that are escaped. -/
def escapedChars : List Char := ['&', '<', '>', '"', '\'']

theorem escapeAttribute_eq_self {s : String} (h : ∀ c ∈ escapedChars, c ∉ s.toList) :
  escapeAttribute s = s
  := by
  have hchar : ∀ c ∈ s.toList, escapeAttributeChar c = [c] := by
    intro c hc
    have hne : ∀ d ∈ escapedChars, c ≠ d := fun d hd he => h d hd (he ▸ hc)
    unfold escapeAttributeChar escapeChar
    rw [if_neg (hne '"' (by decide)), if_neg (hne '\'' (by decide)), if_neg (hne '&' (by decide)),
      if_neg (hne '<' (by decide)), if_neg (hne '>' (by decide))]
  have hall : s.toList.flatMap escapeAttributeChar = s.toList.flatMap fun c => [c] :=
    List.flatMap_congr hchar
  rw [escapeAttribute, hall, List.flatMap_singleton', String.ofList_toList]

end Markup

namespace Page

/-! ### Pieces one after the other -/

@[simp]
theorem toMarkup_nil (escape : Bool) :
  toMarkup escape [] = ""
  := rfl

theorem toMarkup_cons (escape : Bool) (p : Piece) (ps : List Piece) :
  toMarkup escape (p :: ps) = p.toMarkup escape ++ toMarkup escape ps
  := by
  rw [toMarkup, List.map_cons, String.join_cons]
  rfl

theorem toMarkup_append (escape : Bool) (ps qs : List Piece) :
  toMarkup escape (ps ++ qs) = toMarkup escape ps ++ toMarkup escape qs
  := by
  induction ps with
  | nil => rw [List.nil_append, toMarkup_nil, String.empty_append]
  | cons p ps ih => rw [List.cons_append, toMarkup_cons, ih, toMarkup_cons, String.append_assoc]

/-- The markup of some pieces is a part of that of all of them. -/
theorem isInfix_toMarkup (escape : Bool) {ps qs : List Piece} (h : ps <:+: qs) :
  (toMarkup escape ps).toList <:+: (toMarkup escape qs).toList
  := by
  obtain ⟨us, vs, rfl⟩ := h
  rw [toMarkup_append, toMarkup_append, String.toList_append, String.toList_append]
  exact ⟨_, _, rfl⟩

/-! ### Links in markup -/

/-- Pieces in which there is no quote outside of links, and a link is the last that is said in
a tag. -/
inductive Tidy : List Piece → Prop where
  | nil :
      Tidy []
  | plain {p : Piece} {ps : List Piece} :
      '"' ∉ (p.toMarkup true).toList → Tidy ps → Tidy (p :: ps)
  | link {target : String} {ps : List Piece} :
      Tidy ps → Tidy (.link target :: .text ">" :: ps)

theorem Tidy.append {ps qs : List Piece} (hp : Tidy ps) (hq : Tidy qs) :
  Tidy (ps ++ qs)
  := by
  induction hp with
  | nil => apply hq
  | plain hquote _ ih => apply Tidy.plain hquote ih
  | link _ ih => apply Tidy.link ih

theorem Tidy.flatten {pss : List (List Piece)} (h : ∀ ps ∈ pss, Tidy ps) :
  Tidy pss.flatten
  := by
  induction pss with
  | nil => apply Tidy.nil
  | cons ps pss ih =>
    rw [List.forall_mem_cons] at h
    apply h.1.append (ih h.2)

/-- In the markup of tidy pieces, what stands between quotes after a number sign is the target of
a link. -/
theorem Tidy.exists_target {ps : List Piece} (h : Tidy ps) {us x vs : List Char} (hx : '"' ∉ x)
    (he : us ++ '"' :: '#' :: (x ++ '"' :: vs) = (toMarkup true ps).toList) :
  ∃ t ∈ targets ps, x = (Markup.escapeAttribute t).toList
  := by
  induction h generalizing us with
  | nil => simp at he
  | @plain p ps hquote _ ih =>
    rw [toMarkup_cons, String.toList_append] at he
    obtain ⟨us', -, he⟩ := Text.exists_of_append_cons hquote he
    obtain ⟨t, ht, hxt⟩ := ih he
    refine ⟨t, ?_, hxt⟩
    cases p with
    | link target => simp [Piece.toMarkup] at hquote
    | text _ | data _ | place _ => apply ht
  | @link target ps _ ih =>
    let e := (Markup.escapeAttribute target).toList
    have hquote : '"' ∉ e := Markup.quote_not_mem_escapeAttribute target
    have hlink : (toMarkup true (.link target :: .text ">" :: ps)).toList
        = "href=".toList ++ '"' :: ('#' :: e ++ '"' :: ([] ++ '>' :: (toMarkup true ps).toList)) := by
      simp [toMarkup_cons, Piece.toMarkup, Piece.dataMarkup, e]
    rw [hlink] at he
    rcases Text.eq_or_exists_of_append_cons (by decide) he with ⟨-, he⟩ | ⟨us₁, -, he⟩
    · -- The quote opens this link.
      rcases Text.eq_or_exists_of_append_cons hquote (List.cons.inj he).2 with ⟨rfl, -⟩ | ⟨x', rfl, -⟩
      · exact ⟨target, List.mem_cons_self, rfl⟩
      · exact absurd (List.mem_append_right _ List.mem_cons_self) hx
    · have hsign : '"' ∉ '#' :: e := by simpa using hquote
      rcases Text.eq_or_exists_of_append_cons hsign he with ⟨-, he⟩ | ⟨us₂, -, he⟩
      · -- It does not close the link, for no number sign follows.
        cases (List.cons.inj he).1
      · have hclose : '"' ∉ ['>'] := by decide
        obtain ⟨us₃, -, he⟩ := Text.exists_of_append_cons hclose he
        obtain ⟨t, ht, hxt⟩ := ih he
        exact ⟨t, List.mem_cons_of_mem _ ht, hxt⟩

end Page

end DocPages

import DocPages.Proofs.Doclet.Encoding
import DocPages.Proofs.Text.Search

/-!
# Defaults of parameters

A parameter that may be left out is written in brackets, perhaps with a default: `[xs=1]`.  The name
and the type are read whatever the default is, but the first closing bracket is taken for the last
one.  So the description is read as it stands exactly if there are no brackets in the default; from
a default such as `[]` an end is left before the description.
-/

namespace DocPages.Doclet

/-! ### Brackets -/

/-- Is each bracket in a text closed, if `depth` brackets are open before it, and none closed that
is not open? -/
def bracketsBalance : Nat → List Char → Bool
  | depth, [] => depth == 0
  | depth, c :: cs =>
    if c = '[' then bracketsBalance (depth + 1) cs
    else if c = ']' then
      match depth with
      | 0 => false
      | d + 1 => bracketsBalance d cs
    else bracketsBalance depth cs

/-- As many brackets are closed as are open before and opened. -/
theorem count_of_bracketsBalance {depth : Nat} {cs : List Char}
    (h : bracketsBalance depth cs) :
  cs.count ']' = depth + cs.count '['
  := by
  induction cs generalizing depth with
  | nil =>
    rw [bracketsBalance, beq_iff_eq] at h
    rw [h]
    rfl
  | cons c cs ih =>
    rw [bracketsBalance.eq_def] at h
    dsimp only at h
    split at h
    · rename_i hopen
      have hc := ih h
      rw [hopen, List.count_cons_of_ne (by decide), List.count_cons_self]
      omega
    · rename_i hopen
      split at h
      · rename_i hclose
        split at h
        · cases h
        · have hc := ih h
          rw [hclose, List.count_cons_self, List.count_cons_of_ne (by decide)]
          omega
      · rename_i hclose
        have hc := ih h
        rw [List.count_cons_of_ne hopen, List.count_cons_of_ne hclose]
        apply hc

/-- A text with balanced brackets has a closing one exactly if it has an opening one. -/
theorem mem_close_iff_mem_open {cs : List Char} (h : bracketsBalance 0 cs) :
  ']' ∈ cs ↔ '[' ∈ cs
  := by
  rw [← List.count_pos_iff, ← List.count_pos_iff, count_of_bracketsBalance h, Nat.zero_add]

/-! ### Tags with a default -/

/-- A name that can stand in brackets before a default. -/
structure BracketName (n : String) : Prop where
  ne_empty : n ≠ ""
  strip_eq : Text.strip n = n
  no_open : '[' ∉ n.toList
  no_close : ']' ∉ n.toList
  no_equals : '=' ∉ n.toList

/-- What stands after the title of a tag with the type `t`, the name `n`, the default `d` and the
description `s`. -/
def defaultContent (t n d s : String) : List Char :=
  (" \x7b" ++ t ++ "\x7d [" ++ n ++ "=" ++ d ++ "] " ++ s).toList

/-- The first closing bracket ends the default, and the rest is the description. -/
theorem readNamedTag_bracket (title : String) {ts us rest : List Char} {t : TypeExpr} {n : String}
    (ht : TypeExpr.parse (String.ofList ts) = .ok t) (hn : BracketName n) (hu : ']' ∉ us) :
  readNamedTag title
      (' ' :: '\x7b' :: (ts ++ '\x7d' :: ' ' :: '[' :: (n.toList ++ '=' :: us ++ ']' :: rest)))
    = .ok { title, name := some n, type := some (asOptional t), description := description? rest }
  := by
  have hclose : ']' ∉ n.toList ++ '=' :: us := by simp [hn.no_close, hu]
  have hsplit := Text.splitFirst?_singleton hclose rest
  have hname : (n.toList ++ '=' :: us).takeWhile (· != '=') = n.toList := by
    have hall : ∀ c ∈ n.toList, c != '=' := by
      intro c hc
      rw [bne_iff_ne]
      rintro rfl
      exact hn.no_equals hc
    rw [List.takeWhile_append_of_pos hall]
    simp
  have htrim : Text.trim n.toList = n.toList :=
    Text.trim_eq_self_iff.2 (Text.strip_eq_self_iff.1 hn.strip_eq)
  rw [readNamedTag, splitType_of_parse ht rfl, ok_bind]
  dsimp only
  rw [Text.trimLeft, List.dropWhile_cons_of_pos (by decide), List.dropWhile_cons_of_neg (by decide)]
  simp only [hsplit]
  rw [ok_bind]
  dsimp only
  rw [hname, htrim, if_neg (by simpa using hn.ne_empty), String.ofList_toList]
  rfl

/-- What is left of a default stays before the description. -/
theorem description?_append {s : String} (hne : s ≠ "") (hs : Text.strip s = s) (us : List Char) :
  ∃ x, description? (us ++ ']' :: ' ' :: s.toList) = some (x ++ "] " ++ s)
  := by
  have hbracket : Text.isBlank ']' = false := by decide
  have hlast : ∀ c ∈ (Text.trimLeft us ++ ']' :: ' ' :: s.toList).getLast?,
      Text.isBlank c = false := by
    intro c hc
    rw [List.getLast?_append, List.getLast?_cons_of_ne_nil (by simp),
      List.getLast?_cons_of_ne_nil (toList_ne_nil hne)] at hc
    cases hl : s.toList.getLast? with
    | none => exact absurd (List.getLast?_eq_none_iff.1 hl) (toList_ne_nil hne)
    | some d =>
      rw [hl] at hc
      cases hc
      apply (Text.strip_eq_self_iff.1 hs).last c hl
  have htrim : Text.trim (us ++ ']' :: ' ' :: s.toList)
      = Text.trimLeft us ++ ']' :: ' ' :: s.toList := by
    rw [Text.trim, Text.trimLeft_append_cons_of_not us hbracket, Text.trimRight_of_last hlast]
  have hsome : ∀ xs, nonEmpty? (xs ++ ']' :: ' ' :: s.toList)
      = some (String.ofList xs ++ "] " ++ s) := by
    intro xs
    rw [nonEmpty?, if_neg (by simp), Option.some_inj, ← String.toList_inj]
    simp
  rw [description?, htrim]
  split
  · rename_i r hr
    -- The dash is the first character of what is left, since the bracket is none.
    obtain ⟨vs, hvs, rfl⟩ : ∃ vs, Text.trimLeft us = '-' :: ' ' :: vs
        ∧ vs ++ ']' :: ' ' :: s.toList = r := by
      cases hu : Text.trimLeft us with
      | nil => simp [hu] at hr
      | cons a vs =>
        cases vs with
        | nil => simp [hu] at hr
        | cons b vs =>
          rw [hu, List.cons_append, List.cons_append, List.cons.injEq, List.cons.injEq] at hr
          obtain ⟨rfl, rfl, hr⟩ := hr
          exact ⟨vs, rfl, hr⟩
    use String.ofList (Text.trimLeft vs)
    rw [Text.trimLeft_append_cons_of_not vs hbracket, hsome]
  · use String.ofList (Text.trimLeft us)
    apply hsome

/-- A tag with a default is read, with its name and its type made optional.  The description is
read as it stands exactly if there are no brackets in the default; otherwise a closing bracket is
left before it. -/
theorem readNamedTag_default (title : String) {t n d s : String} {type : TypeExpr}
    (ht : TypeExpr.parse t = .ok type) (hn : BracketName n) (hd : bracketsBalance 0 d.toList)
    (hne : s ≠ "") (hs : Text.strip s = s) (hdash : ¬ "- ".toList <+: s.toList) :
  ∃ description, readNamedTag title (defaultContent t n d s)
      = .ok { title, name := some n, type := some (asOptional type)
              description := some description }
    ∧ (description = s ↔ '[' ∉ d.toList)
    ∧ ('[' ∈ d.toList → ∃ x, description = x ++ "] " ++ s)
  := by
  rw [← String.ofList_toList (s := t)] at ht
  rw [← mem_close_iff_mem_open hd]
  have hcontent : defaultContent t n d s = ' ' :: '\x7b' :: (t.toList ++ '\x7d' :: ' ' :: '['
      :: (n.toList ++ '=' :: d.toList ++ ']' :: ' ' :: s.toList)) := by
    simp [defaultContent]
  rw [hcontent]
  by_cases hclose : ']' ∈ d.toList
  · obtain ⟨us, vs, hsplit, hu⟩ := List.eq_append_cons_of_mem hclose
    obtain ⟨x, hx⟩ := description?_append hne hs vs
    have hrest : n.toList ++ '=' :: d.toList ++ ']' :: ' ' :: s.toList
        = n.toList ++ '=' :: us ++ ']' :: (vs ++ ']' :: ' ' :: s.toList) := by
      simp [hsplit]
    have hlonger : x ++ "] " ++ s ≠ s := by
      intro he
      have hlength := congrArg String.length he
      have htwo : "] ".length = 2 := rfl
      rw [String.length_append, String.length_append, htwo] at hlength
      omega
    use x ++ "] " ++ s
    rw [hrest, readNamedTag_bracket title ht hn hu, hx]
    simp [hclose, hlonger]
  · have hdescription : description? (' ' :: s.toList) = some s :=
      description?_spaced (s := some s) (by simpa using ⟨hne, Text.strip_eq_self_iff.1 hs⟩)
        (by simpa using hdash)
    use s
    rw [readNamedTag_bracket title ht hn hclose, hdescription]
    simp [hclose]

theorem bracketName_names :
  BracketName "names"
  := by
  constructor <;> decide

theorem readNamedTag_default_names :
  TypeExpr.parse namesType.source = .ok namesType ∧ BracketName "names"
    ∧ bracketsBalance 0 "[1, [2]]".toList
    ∧ ∃ description,
      readNamedTag "param" (defaultContent namesType.source "names" "[1, [2]]" "What to join.")
        = .ok { title := "param", name := some "names", type := some namesType
                description := some description }
      ∧ description ≠ "What to join." ∧ ∃ x, description = x ++ "] What to join."
  := by
  have htype := parse_namesType
  rw [String.ofList_toList] at htype
  have hbalance : bracketsBalance 0 "[1, [2]]".toList := by decide
  obtain ⟨description, hread, hiff, hleft⟩ := readNamedTag_default "param" htype bracketName_names
    hbalance (s := "What to join.") (by decide) (by decide) (by decide)
  use htype, bracketName_names, hbalance, description, hread
  constructor
  · intro hkept
    exact absurd (hiff.1 hkept) (by decide)
  · obtain ⟨x, hx⟩ := hleft (by decide)
    use x
    rw [hx, String.append_assoc]
    rfl

/-- The bracket that closes an empty list is taken for the last one, and the last one for the start
of the description. -/
theorem readNamedTag_default_emptyList :
  bracketsBalance 0 "[]".toList
    ∧ readNamedTag "param" (defaultContent "Array" "names" "[]" "What to join.")
      = .ok { title := "param", name := some "names", type := some (.optional (.name "Array"))
              description := some "] What to join." }
  := by
  have htype : TypeExpr.parse (String.ofList "Array".toList) = .ok (.name "Array") := by
    have hname : TypeExpr.IsName "Array" := by decide
    rw [String.ofList_toList]
    apply TypeExpr.parse_source (TypeExpr.Shaped.name hname (by decide))
  have hdescription : description? "] What to join.".toList = some "] What to join." := by decide
  have hclose : ']' ∉ ['['] := by decide
  use by decide
  rw [← hdescription]
  apply readNamedTag_bracket "param" htype bracketName_names hclose

end DocPages.Doclet

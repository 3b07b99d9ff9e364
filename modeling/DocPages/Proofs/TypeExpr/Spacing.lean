import DocPages.Proofs.TypeExpr.Source
import Mathlib.Data.List.Chain
import Mathlib.Data.List.TakeWhile
import Mathlib.Tactic.Common

/-!
# Blanks in the text of a type

Between two characters of the text of a type, blanks may be put in or left out, unless the two
belong to one token.  `Respaced cs ds` says that `cs` and `ds` differ only in the blanks at one such
place.  Whatever stands at the start of `cs` stands at the start of `ds` as well, and what is left
of the two differs again only so: `Next.respaced` says it of tokens, `NextName.respaced` of names,
and `Reads.respaced` follows the rules of the grammar from there.
-/

namespace DocPages.TypeExpr

/-! ### Texts that differ in blanks -/

/-- Do two characters next to each other belong to one token? -/
def joins (c d : Char) : Bool :=
  isNameChar c && isNameChar d || c == '.' && d == '<' || c == '[' && d == ']'

/-- The last character of `us` and the first one of `vs` do not belong to one token. -/
def Apart (us vs : List Char) : Prop :=
  ∀ c ∈ us.getLast?, ∀ d ∈ vs.head?, joins c d = false

theorem Apart.of_append {us us' vs : List Char} (h : Apart (us ++ us') vs) :
  Apart us' vs
  := by
  intro c hc
  apply h c
  rw [Option.mem_def] at hc
  rw [Option.mem_def, List.getLast?_append, hc, Option.some_or]

/-- Between `us` and `vs`, the blanks `ws` and the blanks `xs` mean the same. -/
structure Gap (us ws xs vs : List Char) : Prop where
  left : ∀ w ∈ ws, Text.isBlank w
  right : ∀ x ∈ xs, Text.isBlank x
  apart : Apart us vs

namespace Gap

variable {us us' ws xs vs : List Char}

theorem symm (h : Gap us ws xs vs) :
  Gap us xs ws vs
  := ⟨h.right, h.left, h.apart⟩

theorem of_append (h : Gap (us ++ us') ws xs vs) :
  Gap us' ws xs vs
  := ⟨h.left, h.right, h.apart.of_append⟩

end Gap

/-- The two texts differ only in the blanks between two characters that do not belong to one
token. -/
def Respaced (cs ds : List Char) : Prop :=
  ∃ us ws xs vs, Gap us ws xs vs ∧ cs = us ++ (ws ++ vs) ∧ ds = us ++ (xs ++ vs)

namespace Respaced

variable {cs ds : List Char}

theorem refl (cs : List Char) :
  Respaced cs cs
  := by
  use cs, [], [], []
  have hgap : Gap cs [] [] [] := by
    constructor
    · apply List.forall_mem_nil
    · apply List.forall_mem_nil
    · intro c _ d hd
      cases hd
  simpa using hgap

theorem symm (h : Respaced cs ds) :
  Respaced ds cs
  := by
  obtain ⟨us, ws, xs, vs, hgap, hc, hd⟩ := h
  exact ⟨us, xs, ws, vs, hgap.symm, hd, hc⟩

/-- Without the blanks at their start, the texts are equal or differ behind their start. -/
theorem trimLeft (h : Respaced cs ds) :
  Text.trimLeft cs = Text.trimLeft ds
    ∨ ∃ us ws xs vs, us ≠ [] ∧ Gap us ws xs vs
      ∧ Text.trimLeft cs = us ++ (ws ++ vs) ∧ Text.trimLeft ds = us ++ (xs ++ vs)
  := by
  obtain ⟨us, ws, xs, vs, hgap, rfl, rfl⟩ := h
  cases hu : Text.trimLeft us with
  | nil =>
    left
    have hblank : ∀ u ∈ us, Text.isBlank u := List.dropWhile_eq_nil_iff.1 hu
    rw [Text.trimLeft_append_of_blank hblank, Text.trimLeft_append_of_blank hblank,
      Text.trimLeft_append_of_blank hgap.left, Text.trimLeft_append_of_blank hgap.right]
  | cons u us' =>
    right
    obtain ⟨bs, hblank, hsplit⟩ := Text.exists_append_trimLeft us
    rw [hu] at hsplit
    have hstart : ∀ r, Text.trimLeft (us ++ r) = u :: us' ++ r := by
      intro r
      rw [hsplit, List.append_assoc, Text.trimLeft_append_of_blank hblank, List.cons_append,
        Text.trimLeft_cons_of_not (Text.not_isBlank_of_trimLeft_eq_cons hu)]
    rw [hsplit] at hgap
    exact ⟨u :: us', ws, xs, vs, by simp, hgap.of_append, hstart _, hstart _⟩

/-- If nothing but blanks is in one text, nothing but blanks is in the other. -/
theorem trimLeft_eq_nil (h : Respaced cs ds) (hc : Text.trimLeft cs = []) :
  Text.trimLeft ds = []
  := by
  rcases h.trimLeft with heq | ⟨us, ws, xs, vs, hne, -, hcs, -⟩
  · rw [← heq, hc]
  · rw [hc] at hcs
    simp [hne] at hcs

end Respaced

/-! ### Tokens -/

/-- The characters of the token belong together, and none of them is blank. -/
def IsToken (t : String) : Prop :=
  (∀ c ∈ t.toList, Text.isBlank c = false) ∧ t.toList.IsChain fun c d => joins c d

instance (t : String) : Decidable (IsToken t) :=
  @instDecidableAnd _ _ (List.decidableBAll _ t.toList)
    (inferInstanceAs (Decidable (t.toList.IsChain fun c d => joins c d = true)))

/-- A token at the start of a text with a gap in it stands before the gap. -/
theorem Gap.exists_append {us ws xs vs r : List Char} (h : Gap us ws xs vs) (hne : us ≠ [])
    {t : String} (ht : IsToken t) (heq : us ++ (ws ++ vs) = t.toList ++ r) :
  ∃ us', us = t.toList ++ us' ∧ r = us' ++ (ws ++ vs)
  := by
  rcases List.append_eq_append_iff.1 heq with ⟨as, hus, hr⟩ | hus
  · cases as with
    | nil => exact ⟨[], by simp [hus], hr.symm⟩
    | cons a as =>
      -- The gap is inside the token: `a` is the first character behind it.
      exfalso
      rw [IsToken, hus, List.isChain_append] at ht
      cases ws with
      | nil =>
        rw [List.nil_append] at hr
        have hjoins := ht.2.2.2 _ (List.getLast_mem_getLast? hne) a rfl
        have hapart := h.apart _ (List.getLast_mem_getLast? hne) a (by rw [hr]; rfl)
        rw [hapart] at hjoins
        cases hjoins
      | cons w ws =>
        have hwa : w = a := List.head_eq_of_cons_eq hr
        have hblank := h.left w List.mem_cons_self
        rw [hwa, ht.1 a (by simp)] at hblank
        cases hblank
  · apply hus

theorem Next.respaced {t : String} {cs ds r : List Char} (h : Next t cs r) (hs : Respaced cs ds)
    (ht : IsToken t := by decide) :
  ∃ q, Next t ds q ∧ Respaced r q
  := by
  rcases hs.trimLeft with heq | ⟨us, ws, xs, vs, hne, hgap, hc, hd⟩
  · rw [Next, heq] at h
    exact ⟨r, h, Respaced.refl r⟩
  · rw [Next, hc] at h
    obtain ⟨us', rfl, rfl⟩ := hgap.exists_append hne ht h
    use us' ++ (xs ++ vs)
    constructor
    · rw [Next, hd, List.append_assoc]
    · exact ⟨us', ws, xs, vs, hgap.of_append, rfl, rfl⟩

theorem Respaced.ahead_iff {t : String} {cs ds : List Char} (hs : Respaced cs ds)
    (ht : IsToken t := by decide) :
  Ahead t cs ↔ Ahead t ds
  := by
  constructor
  · rintro ⟨r, hr⟩
    obtain ⟨q, hq, -⟩ := hr.respaced hs ht
    exact ⟨q, hq⟩
  · rintro ⟨r, hr⟩
    obtain ⟨q, hq, -⟩ := hr.respaced hs.symm ht
    exact ⟨q, hq⟩

/-! ### Names -/

/-- A name that ends within the first part of a text does not depend on the rest. -/
theorem splitName_append_of_exists {us : List Char} (h : ∃ u ∈ us, ¬ isNameChar u)
    (r : List Char) :
  splitName (us ++ r) = ((splitName us).1, (splitName us).2 ++ r)
  := by
  obtain ⟨u, hu, hname⟩ := h
  have hdrop : us.dropWhile isNameChar ≠ [] := by
    intro hnil
    apply hname (List.dropWhile_eq_nil_iff.1 hnil u hu)
  have htake : (us ++ r).takeWhile isNameChar = us.takeWhile isNameChar := by
    rw [List.takeWhile_append, if_neg]
    intro hlen
    have hself := (List.takeWhile_prefix isNameChar).eq_of_length hlen
    apply hname (List.takeWhile_eq_self_iff.1 hself u hu)
  have hafter : (us ++ r).dropWhile isNameChar = us.dropWhile isNameChar ++ r := by
    rw [List.dropWhile_append, if_neg (by simpa using hdrop)]
  have hhead : (us.dropWhile isNameChar ++ r).head? = (us.dropWhile isNameChar).head? :=
    List.head?_append_of_ne_nil _ hdrop
  rw [splitName, splitName, htake, hafter, hhead]
  split
  · rfl
  · rfl

/-- A name up to a gap ends there. -/
theorem Gap.splitName_eq {us ws xs vs : List Char} (h : Gap us ws xs vs) (hne : us ≠ [])
    (hus : ∀ u ∈ us, isNameChar u) :
  splitName (us ++ (ws ++ vs)) = (us, ws ++ vs)
  := by
  have hhead : ∀ d ∈ (ws ++ vs).head?, isNameChar d = false
      ∧ ¬ (us.getLast? = some '.' ∧ d = '<') := by
    intro d hd
    cases ws with
    | nil =>
      have hapart := h.apart _ (List.getLast_mem_getLast? hne) d hd
      have hlast := hus _ (List.getLast_mem hne)
      rw [joins, hlast, Bool.true_and, Bool.or_eq_false_iff, Bool.or_eq_false_iff] at hapart
      use hapart.1.1
      rintro ⟨hdot, rfl⟩
      rw [List.getLast?_eq_some_getLast hne, Option.some.injEq] at hdot
      rw [hdot] at hapart
      cases hapart.1.2
    | cons w ws =>
      obtain rfl : w = d := Option.some.inj hd
      have hblank := h.left w List.mem_cons_self
      constructor
      · by_contra hname
        rw [not_isBlank_of_isNameChar (by simpa using hname)] at hblank
        cases hblank
      · rintro ⟨-, rfl⟩
        cases hblank
  obtain ⟨htake, hdrop⟩ := Text.takeWhile_dropWhile_of_head? fun d hd => (hhead d hd).1
  rw [splitName, List.takeWhile_append_of_pos hus, List.dropWhile_append_of_pos hus, htake, hdrop,
    List.append_nil]
  apply if_neg
  rintro ⟨hdot, hlt⟩
  apply (hhead '<' hlt).2 ⟨hdot, rfl⟩

theorem NextName.respaced {n cs ds r : List Char} (h : NextName n cs r) (hs : Respaced cs ds) :
  ∃ q, NextName n ds q ∧ Respaced r q
  := by
  rcases hs.trimLeft with heq | ⟨us, ws, xs, vs, hne, hgap, hc, hd⟩
  · rw [NextName, heq] at h
    exact ⟨r, h, Respaced.refl r⟩
  obtain ⟨hsome, hsplit⟩ := h
  rw [hc] at hsome hsplit
  have hsome' : (us ++ (xs ++ vs)).takeWhile isNameChar ≠ [] := by
    cases us with
    | nil => cases hne rfl
    | cons u us =>
      rw [List.cons_append, List.takeWhile_cons] at hsome ⊢
      split
      · simp
      · rename_i hu
        rw [if_neg hu] at hsome
        cases hsome rfl
  -- Either the name goes up to the gap, or it ends before it.
  by_cases hus : ∀ u ∈ us, isNameChar u
  · rw [hgap.splitName_eq hne hus] at hsplit
    obtain ⟨hn, hr⟩ := Prod.mk.inj hsplit
    use xs ++ vs
    constructor
    · rw [NextName, hd, ← hn]
      exact ⟨hsome', hgap.symm.splitName_eq hne hus⟩
    · have hend : Gap [] ws xs vs := by
        rw [← List.append_nil us] at hgap
        apply hgap.of_append
      exact ⟨[], ws, xs, vs, hend, hr.symm, rfl⟩
  · have hstop : ∃ u ∈ us, ¬ isNameChar u := by simpa using hus
    rw [splitName_append_of_exists hstop] at hsplit
    obtain ⟨hn, hr⟩ := Prod.mk.inj hsplit
    use (splitName us).2 ++ (xs ++ vs)
    constructor
    · rw [NextName, hd, ← hn]
      exact ⟨hsome', splitName_append_of_exists hstop _⟩
    · rw [← splitName_append us] at hgap
      exact ⟨(splitName us).2, ws, xs, vs, hgap.of_append, hr.symm, rfl⟩

/-! ### Phrases -/

/-- Whatever is read from a text is read from the text with other blanks. -/
theorem Reads.respaced {cs ds r : List Char} {p : Phrase} (h : Reads cs p r)
    (hs : Respaced cs ds) :
  ∃ q, Reads ds p q ∧ Respaced r q
  := by
  -- A rule applies to both texts: its tokens stand in both, and a token that is ahead in neither
  -- does not stop it.
  induction h generalizing ds with
  | union _ _ ih₁ ih₂ =>
    obtain ⟨q₁, h₁, hs₁⟩ := ih₁ hs
    obtain ⟨q₂, h₂, hs₂⟩ := ih₂ hs₁
    exact ⟨q₂, Reads.union h₁ h₂, hs₂⟩
  | bar h _ _ ih₁ ih₂ =>
    obtain ⟨q₀, h₀, hs₀⟩ := h.respaced hs
    obtain ⟨q₁, h₁, hs₁⟩ := ih₁ hs₀
    obtain ⟨q₂, h₂, hs₂⟩ := ih₂ hs₁
    exact ⟨q₂, Reads.bar h₀ h₁ h₂, hs₂⟩
  | noBar h =>
    rw [hs.ahead_iff] at h
    exact ⟨ds, Reads.noBar h, hs⟩
  | nullable h _ ih =>
    obtain ⟨q₀, h₀, hs₀⟩ := h.respaced hs
    obtain ⟨q₁, h₁, hs₁⟩ := ih hs₀
    exact ⟨q₁, Reads.nullable h₀ h₁, hs₁⟩
  | nonNullable h _ ih =>
    obtain ⟨q₀, h₀, hs₀⟩ := h.respaced hs
    obtain ⟨q₁, h₁, hs₁⟩ := ih hs₀
    exact ⟨q₁, Reads.nonNullable h₀ h₁, hs₁⟩
  | rest h _ ih =>
    obtain ⟨q₀, h₀, hs₀⟩ := h.respaced hs
    obtain ⟨q₁, h₁, hs₁⟩ := ih hs₀
    exact ⟨q₁, Reads.rest h₀ h₁, hs₁⟩
  | unmarked hq hn hr _ _ ih₁ ih₂ =>
    rw [hs.ahead_iff] at hq hn hr
    obtain ⟨q₁, h₁, hs₁⟩ := ih₁ hs
    obtain ⟨q₂, h₂, hs₂⟩ := ih₂ hs₁
    exact ⟨q₂, Reads.unmarked hq hn hr h₁ h₂, hs₂⟩
  | array h _ ih =>
    obtain ⟨q₀, h₀, hs₀⟩ := h.respaced hs
    obtain ⟨q₁, h₁, hs₁⟩ := ih hs₀
    exact ⟨q₁, Reads.array h₀ h₁, hs₁⟩
  | optional h _ ih =>
    obtain ⟨q₀, h₀, hs₀⟩ := h.respaced hs
    obtain ⟨q₁, h₁, hs₁⟩ := ih hs₀
    exact ⟨q₁, Reads.optional h₀ h₁, hs₁⟩
  | noSuffix ha ho =>
    rw [hs.ahead_iff] at ha ho
    exact ⟨ds, Reads.noSuffix ha ho, hs⟩
  | all h =>
    obtain ⟨q₀, h₀, hs₀⟩ := h.respaced hs
    exact ⟨q₀, Reads.all h₀, hs₀⟩
  | group h _ h' ih =>
    obtain ⟨q₀, h₀, hs₀⟩ := h.respaced hs
    obtain ⟨q₁, h₁, hs₁⟩ := ih hs₀
    obtain ⟨q₂, h₂, hs₂⟩ := h'.respaced hs₁
    exact ⟨q₂, Reads.group h₀ h₁ h₂, hs₂⟩
  | emptyRecord h h' =>
    obtain ⟨q₀, h₀, hs₀⟩ := h.respaced hs
    obtain ⟨q₁, h₁, hs₁⟩ := h'.respaced hs₀
    exact ⟨q₁, Reads.emptyRecord h₀ h₁, hs₁⟩
  | record h hn _ ih =>
    obtain ⟨q₀, h₀, hs₀⟩ := h.respaced hs
    rw [hs₀.ahead_iff] at hn
    obtain ⟨q₁, h₁, hs₁⟩ := ih hs₀
    exact ⟨q₁, Reads.record h₀ hn h₁, hs₁⟩
  | named h _ ih =>
    obtain ⟨q₀, h₀, -⟩ := h.respaced hs
    obtain ⟨q₁, h₁, hs₁⟩ := ih hs
    exact ⟨q₁, Reads.named h₀ h₁, hs₁⟩
  | null h =>
    obtain ⟨q₀, h₀, hs₀⟩ := h.respaced hs
    exact ⟨q₀, Reads.null h₀, hs₀⟩
  | function h _ _ ih₁ ih₂ =>
    obtain ⟨q₀, h₀, hs₀⟩ := h.respaced hs
    obtain ⟨q₁, h₁, hs₁⟩ := ih₁ hs₀
    obtain ⟨q₂, h₂, hs₂⟩ := ih₂ hs₁
    exact ⟨q₂, Reads.function h₀ h₁ h₂, hs₂⟩
  | application h hnull ha _ ih =>
    obtain ⟨q₀, h₀, hs₀⟩ := h.respaced hs
    rcases ha with ha | ha
    · obtain ⟨q₁, h₁, hs₁⟩ := ha.respaced hs₀
      obtain ⟨q₂, h₂, hs₂⟩ := ih hs₁
      exact ⟨q₂, Reads.application h₀ hnull (.inl h₁) h₂, hs₂⟩
    · obtain ⟨q₁, h₁, hs₁⟩ := ha.respaced hs₀
      obtain ⟨q₂, h₂, hs₂⟩ := ih hs₁
      exact ⟨q₂, Reads.application h₀ hnull (.inr h₁) h₂, hs₂⟩
  | name h hnull hf hp ha =>
    obtain ⟨q₀, h₀, hs₀⟩ := h.respaced hs
    rw [hs₀.ahead_iff] at hf hp ha
    exact ⟨q₀, Reads.name h₀ hnull hf hp ha, hs₀⟩
  | argument _ h _ ih₁ ih₂ =>
    obtain ⟨q₁, h₁, hs₁⟩ := ih₁ hs
    obtain ⟨q₂, h₂, hs₂⟩ := h.respaced hs₁
    obtain ⟨q₃, h₃, hs₃⟩ := ih₂ hs₂
    exact ⟨q₃, Reads.argument h₁ h₂ h₃, hs₃⟩
  | lastArgument _ h ih =>
    obtain ⟨q₁, h₁, hs₁⟩ := ih hs
    obtain ⟨q₂, h₂, hs₂⟩ := h.respaced hs₁
    exact ⟨q₂, Reads.lastArgument h₁ h₂, hs₂⟩
  | noParams h h' =>
    obtain ⟨q₀, h₀, hs₀⟩ := h.respaced hs
    obtain ⟨q₁, h₁, hs₁⟩ := h'.respaced hs₀
    exact ⟨q₁, Reads.noParams h₀ h₁, hs₁⟩
  | params h hn _ ih =>
    obtain ⟨q₀, h₀, hs₀⟩ := h.respaced hs
    rw [hs₀.ahead_iff] at hn
    obtain ⟨q₁, h₁, hs₁⟩ := ih hs₀
    exact ⟨q₁, Reads.params h₀ hn h₁, hs₁⟩
  | param _ h _ ih₁ ih₂ =>
    obtain ⟨q₁, h₁, hs₁⟩ := ih₁ hs
    obtain ⟨q₂, h₂, hs₂⟩ := h.respaced hs₁
    obtain ⟨q₃, h₃, hs₃⟩ := ih₂ hs₂
    exact ⟨q₃, Reads.param h₁ h₂ h₃, hs₃⟩
  | lastParam _ h ih =>
    obtain ⟨q₁, h₁, hs₁⟩ := ih hs
    obtain ⟨q₂, h₂, hs₂⟩ := h.respaced hs₁
    exact ⟨q₂, Reads.lastParam h₁ h₂, hs₂⟩
  | result h _ ih =>
    obtain ⟨q₀, h₀, hs₀⟩ := h.respaced hs
    obtain ⟨q₁, h₁, hs₁⟩ := ih hs₀
    exact ⟨q₁, Reads.result h₀ h₁, hs₁⟩
  | noResult h =>
    rw [hs.ahead_iff] at h
    exact ⟨ds, Reads.noResult h, hs⟩
  | field hk hc _ h _ ih₁ ih₂ =>
    obtain ⟨q₀, h₀, hs₀⟩ := hk.respaced hs
    obtain ⟨q₁, h₁, hs₁⟩ := hc.respaced hs₀
    obtain ⟨q₂, h₂, hs₂⟩ := ih₁ hs₁
    obtain ⟨q₃, h₃, hs₃⟩ := h.respaced hs₂
    obtain ⟨q₄, h₄, hs₄⟩ := ih₂ hs₃
    exact ⟨q₄, Reads.field h₀ h₁ h₂ h₃ h₄, hs₄⟩
  | lastField hk hc _ h ih =>
    obtain ⟨q₀, h₀, hs₀⟩ := hk.respaced hs
    obtain ⟨q₁, h₁, hs₁⟩ := hc.respaced hs₀
    obtain ⟨q₂, h₂, hs₂⟩ := ih hs₁
    obtain ⟨q₃, h₃, hs₃⟩ := h.respaced hs₂
    exact ⟨q₃, Reads.lastField h₀ h₁ h₂ h₃, hs₃⟩

/-! ### Whole texts -/

theorem Respaced.parse_eq_ok {s s' : String} (hs : Respaced s.toList s'.toList) {t : TypeExpr}
    (h : parse s = .ok t) :
  parse s' = .ok t
  := by
  obtain ⟨r, hr, hblank⟩ := parse_eq_ok_iff.1 h
  obtain ⟨q, hq, hrest⟩ := hr.respaced hs
  apply parse_eq_ok_iff.2 ⟨q, hq, hrest.trimLeft_eq_nil hblank⟩

/-- Blanks between two characters that do not belong to one token do not matter to a type. -/
theorem parse_append_blanks {u v w : String} (hw : ∀ c ∈ w.toList, Text.isBlank c)
    (h : Apart u.toList v.toList) (t : TypeExpr) :
  parse (u ++ w ++ v) = .ok t ↔ parse (u ++ v) = .ok t
  := by
  have hs : Respaced (u ++ w ++ v).toList (u ++ v).toList := by
    have hgap : Gap u.toList w.toList [] v.toList := ⟨hw, List.forall_mem_nil _, h⟩
    exact ⟨u.toList, w.toList, [], v.toList, hgap, by simp, by simp⟩
  constructor
  · apply hs.parse_eq_ok
  · apply hs.symm.parse_eq_ok

/-- A blank and a line feed before a parenthesis do not change an array type. -/
theorem parse_append_blanks_array :
  (∀ c ∈ " \n".toList, Text.isBlank c) ∧ Apart "Array.<".toList "(a|...b)>".toList
    ∧ parse ("Array.<" ++ " \n" ++ "(a|...b)>")
      = .ok (application (name "Array") [union [name "a", rest (name "b")]])
  := by
  have hblank : ∀ c ∈ " \n".toList, Text.isBlank c := List.all_eq_true.1 rfl
  have hapart : Apart "Array.<".toList "(a|...b)>".toList := by
    rintro c ⟨⟩ d ⟨⟩
    decide
  have harray : IsName "Array" := by decide
  have ha : IsName "a" := by decide
  have hb : IsName "b" := by decide
  have hunion : Shaped .plain (union [name "a", rest (name "b")]) := by
    apply Shaped.union (by simp) (by decide)
    simpa using ⟨Shaped.name ha (by decide), Shaped.rest (Shaped.name hb (by decide))⟩
  have hshaped : Shaped .plain
      (application (name "Array") [union [name "a", rest (name "b")]]) := by
    apply Shaped.application harray (by decide) (by simp)
    simpa using hunion
  have hsource : source (application (name "Array") [union [name "a", rest (name "b")]])
      = "Array.<" ++ "(a|...b)>" := by
    decide
  have hparse := parse_source hshaped
  rw [hsource] at hparse
  exact ⟨hblank, hapart, (parse_append_blanks hblank hapart _).2 hparse⟩

end DocPages.TypeExpr

import DocPages.Proofs.TypeExpr.Grammar
import Mathlib.Data.List.TakeWhile
import Mathlib.Tactic.Common

/-!
# The shapes of types that are read

`Shaped s t` says that the type `t` can be written out: its names are spelled as `s` allows, and
where it needs parentheses, its parts are unions.  Every type that is read is `Shaped` with names
of name characters; `shaped_of_parse` follows the rules of the grammar.
-/

namespace DocPages.TypeExpr

/-! ### Shapes -/

/-- Does the text of a type end with the result of a function?  A bar after it belongs to that
result. -/
def isOpen : TypeExpr → Bool
  | function _ (some _) => true
  | rest t | nullable t | nonNullable t => isOpen t
  | _ => false

/-- Does a mark after a type belong to the whole type? -/
def takesSuffix : TypeExpr → Bool
  | rest _ | nullable _ | nonNullable _ | function _ (some _) => false
  | _ => true

/-- Is a type a union? -/
def isUnion : TypeExpr → Bool
  | union _ => true
  | _ => false

/-- How names may be spelled: those that stand alone, those with arguments, and the keys of
records. -/
structure Spelling where
  alone : String → Prop
  applied : String → Prop
  key : String → Prop

/-- The types that can be written out with names spelled in a given way. -/
inductive Shaped (s : Spelling) : TypeExpr → Prop where
  | name {n : String} :
      s.alone n → n ≠ "null" → Shaped s (name n)
  | all :
      Shaped s all
  | null :
      Shaped s null
  | application {n : String} {ts : List TypeExpr} :
      s.applied n → n ≠ "null" → ts ≠ [] → (∀ t ∈ ts, Shaped s t) →
      Shaped s (application (TypeExpr.name n) ts)
  | record {fs : List (String × TypeExpr)} :
      (∀ f ∈ fs, s.key f.1) → (∀ f ∈ fs, Shaped s f.2) → Shaped s (record fs)
  | optional {t : TypeExpr} :
      t.takesSuffix → Shaped s t → Shaped s (optional t)
  | union {ts : List TypeExpr} :
      2 ≤ ts.length → (∀ t ∈ ts.dropLast, t.isOpen = false) → (∀ t ∈ ts, Shaped s t) →
      Shaped s (union ts)
  | group {t : TypeExpr} :
      t.isUnion = false → Shaped s t → Shaped s (TypeExpr.union [t])
  | rest {t : TypeExpr} :
      Shaped s t → Shaped s (rest t)
  | nullable {t : TypeExpr} :
      Shaped s t → Shaped s (nullable t)
  | nonNullable {t : TypeExpr} :
      Shaped s t → Shaped s (nonNullable t)
  | function {ts : List TypeExpr} {r : Option TypeExpr} :
      (∀ t ∈ ts, Shaped s t) → (∀ t ∈ r, Shaped s t) → Shaped s (function ts r)

theorem isOpen_of_takesSuffix {t : TypeExpr} (h : t.takesSuffix) :
  t.isOpen = false
  := by
  cases t with
  | function ts r =>
    cases r with
    | none => rfl
    | some r => cases h
  | rest _ | nullable _ | nonNullable _ => cases h
  | _ => rfl

/-! ### What may follow -/

/-- Nothing that could belong to the phrase follows it: no mark after a type, and no bar after
types with bars between them. -/
def Phrase.Ended (cs r : List Char) : Phrase → Prop
  | .marked _ | .suffixes _ _ => ¬ Ahead "[]" r ∧ ¬ Ahead "=" r
  | .alternatives _ =>
    ¬ Ahead "|" r ∧ (¬ Ahead "[]" cs ∧ ¬ Ahead "=" cs → ¬ Ahead "[]" r ∧ ¬ Ahead "=" r)
  | .union _ => ¬ Ahead "|" r ∧ ¬ Ahead "[]" r ∧ ¬ Ahead "=" r
  | _ => True

theorem Reads.ended {cs r : List Char} {p : Phrase} (h : Reads cs p r) :
  p.Ended cs r
  := by
  induction h with
  | union _ _ ih₁ ih₂ => exact ⟨ih₂.1, ih₂.2 ih₁⟩
  | bar _ _ _ ih₁ ih₂ => exact ⟨ih₂.1, fun _ => ih₂.2 ih₁⟩
  | noBar h => exact ⟨h, id⟩
  | nullable _ _ ih | nonNullable _ _ ih | rest _ _ ih => apply ih
  | unmarked _ _ _ _ _ _ ih => apply ih
  | array _ _ ih | optional _ _ ih => apply ih
  | noSuffix ha ho => exact ⟨ha, ho⟩
  | _ => trivial

/-! ### Types that are read are shaped -/

/-- The text consists of name characters. -/
def IsNameText (n : String) : Prop :=
  n.toList.all isNameChar

/-- Names of name characters, empty only before arguments. -/
def Spelling.loose : Spelling where
  alone n := n ≠ "" ∧ IsNameText n
  applied n := IsNameText n
  key n := n ≠ "" ∧ IsNameText n

/-- What a phrase stands for is shaped.  A type whose text ends with the result of a function is
followed by no mark and no bar. -/
def Phrase.IsShaped (cs r : List Char) : Phrase → Prop
  | .union t => Shaped .loose t
  | .alternatives ts =>
    (∀ t ∈ ts, Shaped .loose t) ∧ (∀ t ∈ ts.dropLast, t.isOpen = false)
      ∧ (ts ≠ [] → Ahead "|" cs)
  | .marked t => Shaped .loose t ∧ (t.isOpen → ¬ Ahead "|" r)
  | .suffixes t t' =>
    Shaped .loose t → (t.takesSuffix = false → ¬ Ahead "|" cs ∧ ¬ Ahead "[]" cs ∧ ¬ Ahead "=" cs) →
      Shaped .loose t' ∧ (t'.isOpen → ¬ Ahead "|" r)
  | .primary t | .named t =>
    Shaped .loose t ∧ (t.takesSuffix = false → ¬ Ahead "|" r ∧ ¬ Ahead "[]" r ∧ ¬ Ahead "=" r)
  | .arguments ts => ts ≠ [] ∧ ∀ t ∈ ts, Shaped .loose t
  | .params ts | .moreParams ts => ∀ t ∈ ts, Shaped .loose t
  | .result t =>
    ∀ t' ∈ t, Shaped .loose t' ∧ ¬ Ahead "|" r ∧ ¬ Ahead "[]" r ∧ ¬ Ahead "=" r
  | .fields fs => ∀ f ∈ fs, Spelling.loose.key f.1 ∧ Shaped .loose f.2

theorem NextName.isNameText {n cs r : List Char} (h : NextName n cs r) :
  IsNameText (String.ofList n)
  := by
  rw [IsNameText, String.toList_ofList, List.all_eq_true]
  intro c hc
  apply h.isNameChar_of_mem hc

theorem ofList_ne_empty {n : List Char} (h : n ≠ []) :
  String.ofList n ≠ ""
  := by
  intro he
  apply h
  apply String.ofList_injective he

theorem ofList_ne_null {n : List Char} (h : n ≠ "null".toList) :
  String.ofList n ≠ "null"
  := by
  intro he
  apply h
  rw [← he, String.toList_ofList]

/-- A type before a bar does not end with the result of a function. -/
theorem isOpen_eq_false {t : TypeExpr} {r : List Char} (h : t.isOpen → ¬ Ahead "|" r)
    (hbar : Ahead "|" r) :
  t.isOpen = false
  := by
  by_contra ho
  apply h (by simpa using ho) hbar

/-- With a type before others, only the last may end with the result of a function. -/
theorem isOpen_dropLast_cons {t : TypeExpr} {ts : List TypeExpr}
    (ht : ts ≠ [] → t.isOpen = false) (hts : ∀ u ∈ ts.dropLast, u.isOpen = false) :
  ∀ u ∈ (t :: ts).dropLast, u.isOpen = false
  := by
  intro u hu
  cases ts with
  | nil => cases hu
  | cons v vs =>
    rw [List.dropLast_cons_of_ne_nil (by simp)] at hu
    rcases List.mem_cons.1 hu with rfl | hu
    · apply ht (by simp)
    · apply hts u hu

/-- Types with bars between them are shaped if each of them is and no bar belongs to a result. -/
theorem shaped_alternatives {s : Spelling} {t : TypeExpr} {ts : List TypeExpr} (ht : Shaped s t)
    (hts : ∀ u ∈ ts, Shaped s u) (hopen : ∀ u ∈ (t :: ts).dropLast, u.isOpen = false) :
  Shaped s (alternatives t ts)
  := by
  cases ts with
  | nil => apply ht
  | cons u us =>
    apply Shaped.union _ hopen (List.forall_mem_cons.2 ⟨ht, hts⟩)
    simp

/-- A shaped type in parentheses is shaped. -/
theorem shaped_parenthesized {s : Spelling} {t : TypeExpr} (h : Shaped s t) :
  Shaped s (parenthesized t)
  := by
  cases t with
  | union ts => apply h
  | _ => apply Shaped.group rfl h

theorem Reads.isShaped {cs r : List Char} {p : Phrase} (h : Reads cs p r) :
  p.IsShaped cs r
  := by
  induction h with
  | union _ _ ih₁ ih₂ =>
    obtain ⟨ht, hopen⟩ := ih₁
    obtain ⟨hts, hlast, hbar⟩ := ih₂
    apply shaped_alternatives ht hts
    apply isOpen_dropLast_cons _ hlast
    intro hne
    apply isOpen_eq_false hopen (hbar hne)
  | bar h _ _ ih₁ ih₂ =>
    obtain ⟨ht, hopen⟩ := ih₁
    obtain ⟨hts, hlast, hbar⟩ := ih₂
    refine ⟨List.forall_mem_cons.2 ⟨ht, hts⟩, ?_, fun _ => ⟨_, h⟩⟩
    apply isOpen_dropLast_cons _ hlast
    intro hne
    apply isOpen_eq_false hopen (hbar hne)
  | noBar _ => simp [Phrase.IsShaped]
  | nullable _ _ ih => exact ⟨Shaped.nullable ih.1, ih.2⟩
  | nonNullable _ _ ih => exact ⟨Shaped.nonNullable ih.1, ih.2⟩
  | rest _ _ ih => exact ⟨Shaped.rest ih.1, ih.2⟩
  | unmarked _ _ _ _ _ ih₁ ih₂ => apply ih₂ ih₁.1 ih₁.2
  | array _ _ ih =>
    intro ht _
    apply ih
    · apply Shaped.application (rfl : IsNameText "Array") (by decide) (by simp)
      simpa using ht
    · intro hf
      cases hf
  | @optional cs r r' t t' h _ ih =>
    intro ht hs
    have hsuffix : t.takesSuffix := by
      by_contra hf
      apply (hs (by simpa using hf)).2.2 ⟨_, h⟩
    apply ih (Shaped.optional hsuffix ht)
    intro hf
    cases hf
  | @noSuffix cs t ha ho =>
    intro ht hs
    use ht
    intro hopen
    by_cases hf : t.takesSuffix
    · rw [isOpen_of_takesSuffix hf] at hopen
      cases hopen
    · apply (hs (by simpa using hf)).1
  | all _ => exact ⟨Shaped.all, fun hf => by cases hf⟩
  | @group _ _ _ _ t _ _ _ ih =>
    use shaped_parenthesized ih
    intro hf
    cases t <;> cases hf
  | emptyRecord _ _ => exact ⟨Shaped.record (by simp) (by simp), fun hf => by cases hf⟩
  | record _ _ _ ih =>
    exact ⟨Shaped.record (fun f hf => (ih f hf).1) (fun f hf => (ih f hf).2), fun hf => by cases hf⟩
  | named _ _ ih => apply ih
  | null _ => exact ⟨Shaped.null, fun hf => by cases hf⟩
  | @function _ _ _ _ ts t _ _ _ ih₁ ih₂ =>
    use Shaped.function ih₁ fun u hu => (ih₂ u hu).1
    intro hf
    cases t with
    | none => cases hf
    | some t => apply (ih₂ t rfl).2
  | application h hnull _ _ ih =>
    use Shaped.application h.isNameText (ofList_ne_null hnull) ih.1 ih.2
    intro hf
    cases hf
  | name h hnull _ hp _ =>
    use Shaped.name ⟨ofList_ne_empty (h.ne_nil hp), h.isNameText⟩ (ofList_ne_null hnull)
    intro hf
    cases hf
  | argument _ _ _ ih₁ ih₂ => exact ⟨by simp, List.forall_mem_cons.2 ⟨ih₁, ih₂.2⟩⟩
  | lastArgument _ _ ih => exact ⟨by simp, List.forall_mem_singleton.2 ih⟩
  | noParams _ _ => simp [Phrase.IsShaped]
  | params _ _ _ ih => apply ih
  | param _ _ _ ih₁ ih₂ => exact List.forall_mem_cons.2 ⟨ih₁, ih₂⟩
  | lastParam _ _ ih => simpa [Phrase.IsShaped] using ih
  | result _ h ih =>
    intro t ht
    cases ht
    exact ⟨ih, h.ended⟩
  | noResult _ => simp [Phrase.IsShaped]
  | field hk hc _ _ _ ih₁ ih₂ =>
    have hne := ofList_ne_empty (hk.ne_nil hc.not_ahead)
    intro f hf
    rcases List.mem_cons.1 hf with rfl | hf
    · exact ⟨⟨hne, hk.isNameText⟩, ih₁⟩
    · apply ih₂ f hf
  | lastField hk hc _ _ ih =>
    have hne := ofList_ne_empty (hk.ne_nil hc.not_ahead)
    intro f hf
    rw [List.mem_singleton] at hf
    rw [hf]
    exact ⟨⟨hne, hk.isNameText⟩, ih⟩

/-- A type that is read is shaped. -/
theorem shaped_of_parse {s : String} {t : TypeExpr} (h : parse s = .ok t) :
  Shaped .loose t
  := by
  obtain ⟨r, hr, -⟩ := parse_eq_ok_iff.1 h
  apply hr.isShaped

/-! ### Plain names -/

/-- A name that is not empty and does not start with a point. -/
def Undotted (n : String) : Prop :=
  n ≠ "" ∧ n.toList.head? ≠ some '.'

/-- A name of name characters, not empty and without a point at its start. -/
def IsName (n : String) : Prop :=
  Undotted n ∧ IsNameText n

instance (n : String) : Decidable (IsName n) :=
  inferInstanceAs
    (Decidable ((n ≠ "" ∧ n.toList.head? ≠ some '.') ∧ n.toList.all isNameChar = true))

/-- Names that cannot be mistaken for marks. -/
def Spelling.plain : Spelling where
  alone := IsName
  applied := IsName
  key := IsName

/-- The name or key `n` stands in the type. -/
inductive Mentions : TypeExpr → String → Prop where
  | name (n : String) :
      Mentions (name n) n
  | key {fs : List (String × TypeExpr)} {f : String × TypeExpr} :
      f ∈ fs → Mentions (record fs) f.1
  | part {t u : TypeExpr} {n : String} :
      u ∈ t.parts → Mentions u n → Mentions t n

/-- Every name in a type with plain names is plain. -/
theorem Shaped.isName_of_mentions {t : TypeExpr} (h : Shaped .plain t) {n : String}
    (hn : Mentions t n) :
  IsName n
  := by
  induction hn with
  | name n =>
    cases h with
    | name hn _ => apply hn
  | key hf =>
    cases h with
    | record hk _ => apply hk _ hf
  | part hu _ ih =>
    cases h with
    | name _ _ => cases hu
    | all => cases hu
    | null => cases hu
    | application ha hnull _ hts =>
      rcases List.mem_cons.1 hu with rfl | hu
      · apply ih (Shaped.name ha hnull)
      · apply ih (hts _ hu)
    | record _ hfs =>
      obtain ⟨f, hf, rfl⟩ := List.mem_map.1 hu
      apply ih (hfs f hf)
    | optional _ ht | group _ ht | rest ht | nullable ht | nonNullable ht =>
      rw [List.mem_singleton.1 hu] at ih
      apply ih ht
    | union _ _ hts => apply ih (hts _ hu)
    | function hts hr =>
      rcases List.mem_append.1 hu with hu | hu
      · apply ih (hts _ hu)
      · apply ih (hr _ (Option.mem_toList.1 hu))

/-- What is true of all names in a type is true of those in its parts. -/
theorem forall_mentions_part {P : String → Prop} {t u : TypeExpr}
    (h : ∀ n, Mentions t n → P n) (hu : u ∈ t.parts) :
  ∀ n, Mentions u n → P n
  := by
  intro n hm
  apply h n (.part hu hm)

/-- A shaped type has plain names if none of its names is empty or starts with a point. -/
theorem Shaped.plain_of_loose {t : TypeExpr} (h : Shaped .loose t)
    (hn : ∀ n, Mentions t n → Undotted n) :
  Shaped .plain t
  := by
  induction h with
  | name ha hnull =>
    have hname : IsName _ := ⟨hn _ (.name _), ha.2⟩
    apply Shaped.name hname hnull
  | all => apply Shaped.all
  | null => apply Shaped.null
  | application ha hnull hne _ ih =>
    have hname : IsName _ := ⟨hn _ (.part List.mem_cons_self (.name _)), ha⟩
    apply Shaped.application hname hnull hne
    intro t ht
    apply ih t ht (forall_mentions_part hn (List.mem_cons_of_mem _ ht))
  | record hk _ ih =>
    apply Shaped.record
    · intro f hf
      exact ⟨hn _ (.key hf), (hk f hf).2⟩
    · intro f hf
      apply ih f hf (forall_mentions_part hn (List.mem_map_of_mem hf))
  | optional hs _ ih =>
    apply Shaped.optional hs
    apply ih (forall_mentions_part hn List.mem_cons_self)
  | union hl ho _ ih =>
    apply Shaped.union hl ho
    intro t ht
    apply ih t ht (forall_mentions_part hn ht)
  | group hu _ ih =>
    apply Shaped.group hu
    apply ih (forall_mentions_part hn List.mem_cons_self)
  | rest _ ih =>
    apply Shaped.rest
    apply ih (forall_mentions_part hn List.mem_cons_self)
  | nullable _ ih =>
    apply Shaped.nullable
    apply ih (forall_mentions_part hn List.mem_cons_self)
  | nonNullable _ ih =>
    apply Shaped.nonNullable
    apply ih (forall_mentions_part hn List.mem_cons_self)
  | function _ _ ih₁ ih₂ =>
    apply Shaped.function
    · intro t ht
      apply ih₁ t ht (forall_mentions_part hn (List.mem_append_left _ ht))
    · intro t ht
      apply ih₂ t ht
      apply forall_mentions_part hn
      apply List.mem_append_right _ (Option.mem_toList.2 ht)

end DocPages.TypeExpr

import DocPages.Proofs.Text.Lines
import DocPages.Proofs.TypeExpr.Shape
import Mathlib.Data.List.TakeWhile
import Mathlib.Tactic.Common

/-!
# Types written out

`source` writes a type out.  A shaped type with plain names is read back from its text, and no
other type is ever read, apart from those with a name that is empty or starts with a point.
-/

namespace DocPages.TypeExpr

/-! ### The text of a type -/

mutual

/-- The text of a type. -/
@[simp]
def source : TypeExpr → String
  | name n => n
  | all => "*"
  | null => "null"
  | application e ts => source e ++ ".<" ++ ", ".intercalate (sources ts) ++ ">"
  | record fs => "\x7b" ++ ", ".intercalate (fieldSources fs) ++ "\x7d"
  | optional e => source e ++ "="
  | union ts => "(" ++ "|".intercalate (sources ts) ++ ")"
  | rest e => "..." ++ source e
  | nullable e => "?" ++ source e
  | nonNullable e => "!" ++ source e
  | function ts r => "function(" ++ ", ".intercalate (sources ts) ++ ")" ++ resultSource r
  | field _ _ | list _ | value _ => ""
termination_by structural t => t

/-- The texts of types. -/
@[simp]
def sources : List TypeExpr → List String
  | [] => []
  | t :: ts => source t :: sources ts
termination_by structural ts => ts

/-- The text of the result of a function, if there is one. -/
@[simp]
def resultSource : Option TypeExpr → String
  | none => ""
  | some t => ":" ++ source t
termination_by structural r => r

/-- The texts of the fields of a record. -/
@[simp]
def fieldSources : List (String × TypeExpr) → List String
  | [] => []
  | f :: fs => fieldSource f :: fieldSources fs
termination_by structural fs => fs

/-- The text of a field of a record. -/
@[simp]
def fieldSource : String × TypeExpr → String
  | (k, t) => k ++ ": " ++ source t
termination_by structural f => f

end

/-! ### Blanks before phrases -/

theorem next_cons_iff {t : String} {c : Char} {cs r : List Char} (hc : Text.isBlank c) :
  Next t (c :: cs) r ↔ Next t cs r
  := by
  simp [Next, Text.trimLeft, hc]

theorem ahead_cons_iff {t : String} {c : Char} {cs : List Char} (hc : Text.isBlank c) :
  Ahead t (c :: cs) ↔ Ahead t cs
  := by
  simp [Ahead, next_cons_iff hc]

theorem nextName_cons_iff {n : List Char} {c : Char} {cs r : List Char} (hc : Text.isBlank c) :
  NextName n (c :: cs) r ↔ NextName n cs r
  := by
  simp [NextName, Text.trimLeft, hc]

/-- Does a phrase have at least one character? -/
def Phrase.isFull : Phrase → Bool
  | alternatives _ | suffixes _ _ | result _ => false
  | _ => true

/-- A blank may stand before a phrase. -/
theorem Reads.cons {cs r : List Char} {p : Phrase} (h : Reads cs p r) (hp : p.isFull) {c : Char}
    (hc : Text.isBlank c) :
  Reads (c :: cs) p r
  := by
  induction h with
  | union _ h₂ ih => apply Reads.union (ih rfl) h₂
  | bar _ _ _ _ | noBar _ | array _ _ _ | optional _ _ _ | noSuffix _ _ => cases hp
  | result _ _ _ | noResult _ => cases hp
  | nullable h h' _ => apply Reads.nullable ((next_cons_iff hc).2 h) h'
  | nonNullable h h' _ => apply Reads.nonNullable ((next_cons_iff hc).2 h) h'
  | rest h h' _ => apply Reads.rest ((next_cons_iff hc).2 h) h'
  | unmarked hq hn hr _ h₂ ih _ =>
    rw [← ahead_cons_iff hc] at hq hn hr
    apply Reads.unmarked hq hn hr (ih rfl) h₂
  | all h => apply Reads.all ((next_cons_iff hc).2 h)
  | group h h' h'' _ => apply Reads.group ((next_cons_iff hc).2 h) h' h''
  | emptyRecord h h' => apply Reads.emptyRecord ((next_cons_iff hc).2 h) h'
  | record h h' h'' _ => apply Reads.record ((next_cons_iff hc).2 h) h' h''
  | named h _ ih => apply Reads.named ((nextName_cons_iff hc).2 h) (ih rfl)
  | null h => apply Reads.null ((nextName_cons_iff hc).2 h)
  | function h h' h'' _ _ => apply Reads.function ((nextName_cons_iff hc).2 h) h' h''
  | application h hn h' h'' _ => apply Reads.application ((nextName_cons_iff hc).2 h) hn h' h''
  | name h hn hf hd ha => apply Reads.name ((nextName_cons_iff hc).2 h) hn hf hd ha
  | argument _ h h' ih _ => apply Reads.argument (ih rfl) h h'
  | lastArgument _ h ih => apply Reads.lastArgument (ih rfl) h
  | noParams h h' => apply Reads.noParams ((next_cons_iff hc).2 h) h'
  | params h h' h'' _ => apply Reads.params ((next_cons_iff hc).2 h) h' h''
  | param _ h h' ih _ => apply Reads.param (ih rfl) h h'
  | lastParam _ h ih => apply Reads.lastParam (ih rfl) h
  | field h h₁ h₂ h₃ h₄ _ _ => apply Reads.field ((nextName_cons_iff hc).2 h) h₁ h₂ h₃ h₄
  | lastField h h₁ h₂ h₃ _ => apply Reads.lastField ((nextName_cons_iff hc).2 h) h₁ h₂ h₃

/-- No type starts with a closing parenthesis. -/
theorem Reads.not_ahead_close {cs r : List Char} {t : TypeExpr} (h : Reads cs (.marked t) r) :
  ¬ Ahead ")" cs
  := by
  cases h with
  | nullable h _ | nonNullable h _ | rest h _ => apply h.not_ahead
  | unmarked _ _ _ h _ =>
    cases h with
    | all h | group h _ _ | emptyRecord h _ | record h _ _ => apply h.not_ahead
    | named h _ => apply h.not_ahead (t := ")") rfl

theorem Reads.not_ahead_close_of_moreParams {cs r : List Char} {ts : List TypeExpr}
    (h : Reads cs (.moreParams ts) r) :
  ¬ Ahead ")" cs
  := by
  cases h with
  | param ht _ _ | lastParam ht _ =>
    cases ht with
    | union ht _ => apply ht.not_ahead_close

/-! ### Names before other characters -/

theorem not_isBlank_of_isNameChar {c : Char} (h : isNameChar c) :
  Text.isBlank c = false
  := by
  simp only [isNameChar, Bool.or_eq_true, beq_iff_eq] at h
  rcases h with (hw | rfl) | rfl
  · apply Text.not_isBlank_of_isWord hw
  · decide
  · decide

theorem trimLeft_name_append {n r : List Char} (hne : n ≠ []) (hn : ∀ c ∈ n, isNameChar c) :
  Text.trimLeft (n ++ r) = n ++ r
  := by
  cases n with
  | nil => cases hne rfl
  | cons c n =>
    apply Text.trimLeft_cons_of_not
    apply not_isBlank_of_isNameChar (hn c List.mem_cons_self)

/-- A name ends where a character stands that is neither part of a name nor an angle bracket. -/
theorem nextName_append {n r : List Char} (hne : n ≠ []) (hn : ∀ c ∈ n, isNameChar c)
    (hr : ∀ c ∈ r.head?, isNameChar c = false ∧ c ≠ '<') :
  NextName n (n ++ r) r
  := by
  have hd := Text.takeWhile_dropWhile_of_head? fun c hc => (hr c hc).1
  rw [NextName, trimLeft_name_append hne hn, List.takeWhile_append_of_pos hn, splitName,
    List.takeWhile_append_of_pos hn, List.dropWhile_append_of_pos hn, hd.1, hd.2, List.append_nil]
  use hne
  apply if_neg
  rintro ⟨-, hlt⟩
  apply (hr '<' hlt).2 rfl

/-- A name ends before a point and an angle bracket. -/
theorem nextName_append_angle {n r : List Char} (hne : n ≠ []) (hn : ∀ c ∈ n, isNameChar c) :
  NextName n (n ++ '.' :: '<' :: r) ('.' :: '<' :: r)
  := by
  have ht : ('.' :: '<' :: r).takeWhile isNameChar = ['.'] := rfl
  have hd : ('.' :: '<' :: r).dropWhile isNameChar = '<' :: r := rfl
  rw [NextName, trimLeft_name_append hne hn, splitName, List.takeWhile_append_of_pos hn,
    List.dropWhile_append_of_pos hn, ht, hd]
  simp

/-! ### What may follow a type -/

/-- After blanks, the text ends or goes on with one of the characters `u`. -/
def Stops (u : String) (r : List Char) : Prop :=
  ∀ c ∈ (Text.trimLeft r).head?, c ∈ u.toList

theorem stops_nil (u : String) :
  Stops u []
  := by
  rintro c ⟨⟩

theorem stops_cons {u : String} {c : Char} (r : List Char)
    (hc : u.toList.contains c && !Text.isBlank c) :
  Stops u (c :: r)
  := by
  rw [Bool.and_eq_true, List.contains_iff_mem, Bool.not_eq_true'] at hc
  rw [Stops, Text.trimLeft_cons_of_not hc.2]
  rintro d ⟨⟩
  apply hc.1

theorem Stops.mono {u v : String} {r : List Char} (h : Stops u r)
    (hs : u.toList ⊆ v.toList) :
  Stops v r
  := fun c hc => hs (h c hc)

/-- Where a text stops, no token is that starts with another character. -/
theorem Stops.not_ahead {u : String} {r : List Char} (h : Stops u r) {t : String}
    (ht : t.toList.head?.any (fun c => !u.toList.contains c)) :
  ¬ Ahead t r
  := by
  obtain ⟨c, s, ht, hc⟩ := exists_of_any_head? ht
  rintro ⟨q, hq⟩
  have hmem : c ∈ u.toList := by
    apply h
    rw [hq, ht]
    rfl
  rw [List.contains_iff_mem.2 hmem] at hc
  cases hc

/-- Where a text stops, it stands at its end, before a blank or before one of the characters. -/
theorem Stops.head? {u : String} {r : List Char} (h : Stops u r) {c : Char} (hc : c ∈ r.head?) :
  Text.isBlank c ∨ c ∈ u.toList
  := by
  cases r with
  | nil => cases hc
  | cons d r =>
    cases hc
    by_cases hb : Text.isBlank c
    · left
      apply hb
    · right
      apply h
      rw [Text.trimLeft_cons_of_not (by simpa using hb)]
      rfl

/-- A name ends where a text stops. -/
theorem Stops.nextName {u : String} {r : List Char} (h : Stops u r)
    (hu : u.toList.all (fun c => !isNameChar c && c != '<')) {n : List Char} (hne : n ≠ [])
    (hn : ∀ c ∈ n, isNameChar c) :
  NextName n (n ++ r) r
  := by
  apply nextName_append hne hn
  intro c hc
  rcases h.head? hc with hb | hm
  · constructor
    · by_contra hname
      rw [not_isBlank_of_isNameChar (by simpa using hname)] at hb
      cases hb
    · rintro rfl
      cases hb
  · simpa using List.all_eq_true.1 hu c hm

/-! ### Types before what may follow them -/

/-- The characters that may stand after a type: a bar after the result of a function would belong
to that result. -/
def followers (t : TypeExpr) : String :=
  if t.isOpen then ",>)\x7d" else ",>)\x7d|"

/-- The text of a type is read as that type before what may follow it.  Where a mark after the
type belongs to the whole type, it is read with its marks. -/
structure Written (t : TypeExpr) : Prop where
  marked {r : List Char} :
    Stops t.followers r → Reads ((source t).toList ++ r) (.marked t) r
  suffixes {t' : TypeExpr} {r r' : List Char} :
    t.takesSuffix → Stops ",>)\x7d|=" r → Reads r (.suffixes t t') r' →
    Reads ((source t).toList ++ r) (.marked t') r'

theorem stops_followers {t : TypeExpr} {r : List Char} (h : Stops ",>)\x7d" r) :
  Stops t.followers r
  := by
  apply h.mono
  unfold followers
  split <;> decide

theorem Stops.noSuffix {t u : TypeExpr} {r : List Char} (h : Stops u.followers r) :
  Reads r (.suffixes t t) r
  := by
  have hr : Stops ",>)\x7d|" r := by
    apply h.mono
    unfold followers
    split <;> decide
  apply Reads.noSuffix
  · apply hr.not_ahead (t := "[]") rfl
  · apply hr.not_ahead (t := "=") rfl

/-- A type is written if all its readings take marks after it. -/
theorem written_of_suffixes {t : TypeExpr} (ht : t.takesSuffix)
    (h : ∀ {t' : TypeExpr} {r r' : List Char}, Stops ",>)\x7d|=" r →
      Reads r (.suffixes t t') r' → Reads ((source t).toList ++ r) (.marked t') r') :
  Written t
  := by
  constructor
  · intro r hr
    apply h _ hr.noSuffix
    rw [followers, isOpen_of_takesSuffix ht] at hr
    apply hr.mono (by decide)
  · intro t' r r' _
    apply h

/-- No mark that stands before types is next. -/
def Unmarked (cs : List Char) : Prop :=
  ¬ Ahead "?" cs ∧ ¬ Ahead "!" cs ∧ ¬ Ahead "..." cs

/-- A type is written if its text is that of a type without marks. -/
theorem written_of_primary {t : TypeExpr} (ht : t.takesSuffix)
    (h : ∀ {r : List Char}, Stops ",>)\x7d|=" r →
      Unmarked ((source t).toList ++ r) ∧ Reads ((source t).toList ++ r) (.primary t) r) :
  Written t
  := by
  apply written_of_suffixes ht
  intro t' r r' hr hs
  obtain ⟨⟨hq, hn, hp⟩, hprimary⟩ := h hr
  apply Reads.unmarked hq hn hp hprimary hs

/-- A type before what closes it is a union of one type. -/
theorem Reads.single {cs r : List Char} {t : TypeExpr} (h : Reads cs (.marked t) r)
    (hr : Stops ",>)\x7d" r) :
  Reads cs (.union t) r
  := by
  change Reads _ (.union (alternatives t [])) r
  apply Reads.union h
  apply Reads.noBar
  apply hr.not_ahead (t := "|") rfl

theorem Written.reads_union {t : TypeExpr} (h : Written t) {r : List Char}
    (hr : Stops ",>)\x7d" r) :
  Reads ((source t).toList ++ r) (.union t) r
  := by
  apply Reads.single _ hr
  apply h.marked (stops_followers hr)

/-- A token stands where it is written. -/
theorem next_append (t : String) (r : List Char)
    (ht : t.toList.head?.any (fun c => !Text.isBlank c)) :
  Next t (t.toList ++ r) r
  := by
  obtain ⟨c, s, ht, hc⟩ := exists_of_any_head? ht
  rw [Next, ht, List.cons_append]
  apply Text.trimLeft_cons_of_not
  simpa using hc

/-! ### Lists of types -/

theorem sources_eq_map (ts : List TypeExpr) :
  sources ts = ts.map source
  := by
  induction ts with
  | nil => rfl
  | cons t ts ih => rw [sources, ih, List.map_cons]

theorem fieldSources_eq_map (fs : List (String × TypeExpr)) :
  fieldSources fs = fs.map fieldSource
  := by
  induction fs with
  | nil => rfl
  | cons f fs ih => rw [fieldSources, ih, List.map_cons]

/-- Items with commas between them are read as a phrase if the last one is read before what closes
the phrase, and each other one before a comma and the items after it. -/
theorem reads_commas {α : Type} {text : α → String} {P : List α → Phrase}
    (hP : ∀ as, (P as).isFull) {as : List α} {close r : List Char} (hne : as ≠ [])
    (hlast : ∀ a ∈ as, Reads ((text a).toList ++ close) (P [a]) r)
    (hmore : ∀ a ∈ as, ∀ bs q, Reads q (P bs) r →
      Reads ((text a).toList ++ ',' :: q) (P (a :: bs)) r) :
  Reads ((", ".intercalate (as.map text)).toList ++ close) (P as) r
  := by
  induction as with
  | nil => cases hne rfl
  | cons a as ih =>
    cases as with
    | nil =>
      rw [List.map_singleton, String.intercalate_singleton]
      apply hlast a List.mem_cons_self
    | cons b bs =>
      have htail := ih (by simp) (fun c hc => hlast c (List.mem_cons_of_mem _ hc))
        (fun c hc => hmore c (List.mem_cons_of_mem _ hc))
      have htext : (", ".intercalate ((a :: b :: bs).map text)).toList ++ close
          = (text a).toList
            ++ ',' :: ' ' :: ((", ".intercalate ((b :: bs).map text)).toList ++ close) := by
        simp
      rw [htext]
      apply hmore a List.mem_cons_self
      apply htail.cons (hP _) (by decide)

theorem reads_arguments {ts : List TypeExpr} (hne : ts ≠ []) (h : ∀ t ∈ ts, Written t)
    (r : List Char) :
  Reads ((", ".intercalate (sources ts)).toList ++ '>' :: r) (.arguments ts) r
  := by
  rw [sources_eq_map]
  apply reads_commas (fun _ => rfl) hne
  · intro t ht
    apply Reads.lastArgument ((h t ht).reads_union (stops_cons r (by rfl)))
    apply next_append ">" _ rfl
  · intro t ht us q hq
    apply Reads.argument ((h t ht).reads_union (stops_cons q (by rfl))) _ hq
    apply next_append "," _ rfl

/-- Parameters are read if each of them is read before a comma and before the parenthesis that
closes them. -/
theorem reads_moreParams {α : Type} {text : α → String} {type : α → TypeExpr} {as : List α}
    (hne : as ≠ [])
    (h : ∀ a ∈ as, ∀ r, Stops ",)" r → Reads ((text a).toList ++ r) (.union (type a)) r)
    (r : List Char) :
  Reads ((", ".intercalate (as.map text)).toList ++ ')' :: r) (.moreParams (as.map type)) r
  := by
  apply reads_commas (P := fun bs => .moreParams (bs.map type)) (fun _ => rfl) hne
  · intro a ha
    apply Reads.lastParam (h a ha _ (stops_cons r (by rfl)))
    apply next_append ")" _ rfl
  · intro a ha bs q hq
    apply Reads.param (h a ha _ (stops_cons q (by rfl))) _ hq
    apply next_append "," _ rfl

theorem reads_params {α : Type} (text : α → String) (type : α → TypeExpr) {as : List α}
    (h : ∀ a ∈ as, ∀ r, Stops ",)" r → Reads ((text a).toList ++ r) (.union (type a)) r)
    (r : List Char) :
  Reads ('(' :: ((", ".intercalate (as.map text)).toList ++ ')' :: r)) (.params (as.map type)) r
  := by
  have hopen := next_append "("
    ((", ".intercalate (as.map text)).toList ++ ')' :: r) rfl
  cases as with
  | nil => apply Reads.noParams hopen (next_append ")" r rfl)
  | cons a as =>
    have hparams := reads_moreParams (by simp) h r
    apply Reads.params hopen hparams.not_ahead_close_of_moreParams hparams

/-- The text of a name starts with no mark. -/
theorem IsName.not_ahead {n : String} (h : IsName n) (r : List Char) {t : String}
    (ht : t.toList.head?.any (fun c => !isNameChar c || c == '.')) :
  ¬ Ahead t (n.toList ++ r)
  := by
  obtain ⟨c, s, ht, hc⟩ := exists_of_any_head? ht
  rintro ⟨q, hq⟩
  obtain ⟨⟨hne, hdot⟩, hn⟩ := h
  have hlist : n.toList ≠ [] := by simpa using hne
  obtain ⟨d, ds, hd⟩ := List.exists_cons_of_ne_nil hlist
  rw [Next, trimLeft_name_append hlist (List.all_eq_true.1 hn), ht, hd] at hq
  have hcd : d = c := List.head_eq_of_cons_eq hq
  rw [hcd] at hd
  rw [List.all_eq_true.1 hn c (by simp [hd])] at hc
  apply hdot
  rw [hd, eq_of_beq hc]
  rfl

theorem IsName.unmarked {n : String} (h : IsName n) (r : List Char) :
  Unmarked (n.toList ++ r)
  := by
  exact ⟨h.not_ahead r rfl, h.not_ahead r rfl, h.not_ahead r rfl⟩

/-- A name that may stand in a type is read before what may follow it. -/
theorem IsName.nextName {n : String} (h : IsName n) {u : String} {r : List Char}
    (hr : Stops u r) (hu : u.toList.all (fun c => !isNameChar c && c != '<')) :
  NextName n.toList (n.toList ++ r) r
  := by
  apply hr.nextName hu _ (List.all_eq_true.1 h.2)
  simpa using h.1.1

theorem reads_fields {fs : List (String × TypeExpr)} (hne : fs ≠ []) (hk : ∀ f ∈ fs, IsName f.1)
    (h : ∀ f ∈ fs, Written f.2) (r : List Char) :
  Reads ((", ".intercalate (fieldSources fs)).toList ++ '\x7d' :: r) (.fields fs) r
  := by
  have hkey : ∀ f ∈ fs, ∀ q,
      NextName f.1.toList ((fieldSource f).toList ++ q)
        (':' :: ' ' :: ((source f.2).toList ++ q)) := by
    rintro ⟨k, t⟩ hf q
    have htext : (fieldSource (k, t)).toList ++ q
        = k.toList ++ ':' :: ' ' :: ((source t).toList ++ q) := by
      simp
    rw [htext]
    apply (hk _ hf).nextName (stops_cons (u := ":") _ rfl) rfl
  have hcolon : ∀ q, Next ":" (':' :: ' ' :: q) (' ' :: q) := by
    intro q
    apply next_append ":" _ rfl
  rw [fieldSources_eq_map]
  apply reads_commas (fun _ => rfl) hne
  · intro f hf
    have hvalue := (h f hf).reads_union (stops_cons (c := '\x7d') r (by rfl))
    have hfield := Reads.lastField (hkey f hf _) (hcolon _) (hvalue.cons rfl (by decide))
      (next_append "\x7d" r rfl)
    rw [String.ofList_toList] at hfield
    apply hfield
  · intro f hf gs q hq
    have hvalue := (h f hf).reads_union (stops_cons (c := ',') q (by rfl))
    have hfield := Reads.field (hkey f hf _) (hcolon _) (hvalue.cons rfl (by decide))
      (next_append "," q rfl) hq
    rw [String.ofList_toList] at hfield
    apply hfield

/-- The types after a type, each with a bar before it, may follow that type. -/
theorem stops_alternatives {t : TypeExpr} {ts : List TypeExpr}
    (hopen : ∀ u ∈ (t :: ts).dropLast, u.isOpen = false) (r : List Char) :
  Stops t.followers (ts.flatMap (fun u => '|' :: (source u).toList) ++ ')' :: r)
  := by
  cases ts with
  | nil => exact stops_followers (stops_cons _ (by rfl))
  | cons u us =>
    rw [followers, hopen t (by simp)]
    exact stops_cons _ rfl

/-- Types with a bar before each are read up to a closing parenthesis. -/
theorem reads_alternatives {ts : List TypeExpr} (h : ∀ t ∈ ts, Written t)
    (hopen : ∀ t ∈ ts.dropLast, t.isOpen = false) (r : List Char) :
  Reads (ts.flatMap (fun t => '|' :: (source t).toList) ++ ')' :: r) (.alternatives ts) (')' :: r)
  := by
  induction ts with
  | nil =>
    apply Reads.noBar
    have hend : Stops ")" (')' :: r) := stops_cons r rfl
    apply hend.not_ahead (t := "|") rfl
  | cons t ts ih =>
    rw [List.flatMap_cons, List.append_assoc, List.cons_append]
    apply Reads.bar (next_append "|" _ rfl)
    · apply (h t List.mem_cons_self).marked (stops_alternatives hopen r)
    · apply ih (fun u hu => h u (List.mem_cons_of_mem _ hu))
      intro u hu
      cases ts with
      | nil => cases hu
      | cons v vs => apply hopen u (by simpa using .inr hu)

/-! ### Every shape -/

theorem toList_ne_null {n : String} (h : n ≠ "null") :
  n.toList ≠ "null".toList
  := by
  intro he
  apply h
  apply String.toList_injective he

/-- A name is read before what may follow it, also if it starts with points. -/
theorem reads_name {n : String} (hne : n ≠ "") (hn : IsNameText n) (hnull : n ≠ "null")
    {r : List Char} (hr : Stops ",>)\x7d|=" r) :
  Reads (n.toList ++ r) (.primary (name n)) r
  := by
  have hname := hr.nextName rfl (by simpa using hne) (List.all_eq_true.1 hn)
  have hnamed := Reads.name hname (toList_ne_null hnull)
    (fun hf => hr.not_ahead (t := "(") rfl hf.2)
    (hr.not_ahead (t := ".<") rfl) (hr.not_ahead (t := "<") rfl)
  rw [String.ofList_toList] at hnamed
  apply Reads.named hname hnamed

theorem written_name {n : String} (h : IsName n) (hnull : n ≠ "null") :
  Written (name n)
  := by
  apply written_of_primary rfl
  intro r hr
  use h.unmarked r
  apply reads_name h.1.1 h.2 hnull hr

/-- A name with arguments is a type without marks. -/
theorem reads_application {n : String} {ts : List TypeExpr} (h : IsName n) (hnull : n ≠ "null")
    {q r : List Char} (hts : Reads q (.arguments ts) r) :
  Unmarked (n.toList ++ '.' :: '<' :: q)
    ∧ Reads (n.toList ++ '.' :: '<' :: q) (.primary (application (name n) ts)) r
  := by
  use h.unmarked _
  have hname := nextName_append_angle (r := q) (by simpa using h.1.1) (List.all_eq_true.1 h.2)
  have hnamed := Reads.application hname (toList_ne_null hnull) (.inl (next_append ".<" q rfl)) hts
  rw [String.ofList_toList] at hnamed
  apply Reads.named hname hnamed

theorem written_application {n : String} {ts : List TypeExpr} (h : IsName n) (hnull : n ≠ "null")
    (hne : ts ≠ []) (hts : ∀ t ∈ ts, Written t) :
  Written (application (name n) ts)
  := by
  apply written_of_primary rfl
  intro r _
  have htext : (source (application (name n) ts)).toList ++ r
      = n.toList ++ '.' :: '<' :: ((", ".intercalate (sources ts)).toList ++ '>' :: r) := by
    simp
  rw [htext]
  apply reads_application h hnull (reads_arguments hne hts r)

/-- Where another token is next, no mark is. -/
theorem Next.unmarked {t : String} {cs r : List Char} (h : Next t cs r)
    (ht : t.toList.head?.any (fun c => !"?!.".toList.contains c)) :
  Unmarked cs
  := by
  obtain ⟨c, s, ht, hc⟩ := exists_of_any_head? ht
  have hother {u : String} {d : Char} {v : List Char} (hu : u.toList = d :: v)
      (hd : "?!.".toList.contains d) : ¬ Ahead u cs := by
    refine h.not_ahead ?_
    rw [hu, ht, List.cons_append, List.cons_prefix_cons]
    rintro ⟨rfl, -⟩
    rw [hd] at hc
    cases hc
  refine ⟨?_, ?_, ?_⟩
  · apply hother rfl rfl
  · apply hother rfl rfl
  · apply hother rfl rfl

theorem written_all :
  Written all
  := by
  apply written_of_primary rfl
  intro r _
  have h : Next "*" ((source all).toList ++ r) r := next_append "*" r rfl
  use h.unmarked rfl
  apply Reads.all h

theorem written_null :
  Written null
  := by
  have hname : IsName "null" := by decide
  apply written_of_primary rfl
  intro r hr
  use hname.unmarked r
  have hnext := hname.nextName hr rfl
  apply Reads.named hnext (Reads.null hnext)

theorem written_record {fs : List (String × TypeExpr)} (hk : ∀ f ∈ fs, IsName f.1)
    (h : ∀ f ∈ fs, Written f.2) :
  Written (record fs)
  := by
  apply written_of_primary rfl
  intro r _
  have htext : (source (record fs)).toList ++ r
      = '\x7b' :: ((", ".intercalate (fieldSources fs)).toList ++ '\x7d' :: r) := by
    simp
  rw [htext]
  have hopen := next_append "\x7b"
    ((", ".intercalate (fieldSources fs)).toList ++ '\x7d' :: r) rfl
  use hopen.unmarked rfl
  cases fs with
  | nil => apply Reads.emptyRecord hopen (next_append "\x7d" r rfl)
  | cons f fs =>
    have hfields := reads_fields (by simp) hk h r
    apply Reads.record hopen _ hfields
    cases hfields with
    | field hn _ _ _ _ | lastField hn _ _ _ => apply hn.not_ahead (t := "\x7d") rfl

theorem written_optional {t : TypeExpr} (ht : t.takesSuffix) (h : Written t) :
  Written (optional t)
  := by
  apply written_of_suffixes rfl
  intro t' r r' hr hs
  have htext : (source (optional t)).toList ++ r = (source t).toList ++ '=' :: r := by
    simp
  rw [htext]
  apply h.suffixes ht (stops_cons r (by rfl))
  apply Reads.optional (next_append "=" r rfl) hs

/-- Parentheses around types with bars between them are a type without marks. -/
theorem written_parentheses {ts : List TypeExpr}
    (h : ∀ r, ∃ t, parenthesized t = union ts
      ∧ Reads (("|".intercalate (sources ts)).toList ++ ')' :: r) (.union t) (')' :: r)) :
  Written (union ts)
  := by
  apply written_of_primary rfl
  intro r _
  have htext : (source (union ts)).toList ++ r
      = '(' :: (("|".intercalate (sources ts)).toList ++ ')' :: r) := by
    simp
  rw [htext]
  have hopen := next_append "("
    (("|".intercalate (sources ts)).toList ++ ')' :: r) rfl
  use hopen.unmarked rfl
  obtain ⟨t, ht, hr⟩ := h r
  rw [← ht]
  apply Reads.group hopen hr (next_append ")" r rfl)

theorem written_group {t : TypeExpr} (ht : t.isUnion = false) (h : Written t) :
  Written (union [t])
  := by
  apply written_parentheses
  intro r
  use t
  constructor
  · cases t with
    | union ts => cases ht
    | _ => rfl
  · rw [sources, sources, String.intercalate_singleton]
    apply h.reads_union (stops_cons r (by rfl))

/-- Bars between texts stand before each but the first one. -/
theorem toList_bars (s : String) (ss : List String) :
  ("|".intercalate (s :: ss)).toList = s.toList ++ ss.flatMap (fun u => '|' :: u.toList)
  := by
  induction ss generalizing s with
  | nil => simp
  | cons u us ih =>
    rw [String.intercalate_cons_cons, String.toList_append, String.toList_append, ih,
      List.flatMap_cons]
    simp

theorem written_union {ts : List TypeExpr} (hlen : 2 ≤ ts.length)
    (hopen : ∀ t ∈ ts.dropLast, t.isOpen = false) (h : ∀ t ∈ ts, Written t) :
  Written (union ts)
  := by
  apply written_parentheses
  intro r
  match ts, hlen with
  | t :: u :: us, _ =>
    use union (t :: u :: us), rfl
    rw [sources, toList_bars, sources_eq_map, List.flatMap_map, List.append_assoc]
    change Reads _ (.union (alternatives t (u :: us))) _
    apply Reads.union ((h t List.mem_cons_self).marked (stops_alternatives hopen r))
    apply reads_alternatives (fun v hv => h v (List.mem_cons_of_mem _ hv))
    intro v hv
    apply hopen v (List.mem_cons_of_mem _ hv)

/-- A mark before a written type makes another one, if it is open exactly if the type is. -/
theorem written_marked {t u : TypeExpr} {m : String} (h : Written t)
    (hm : m.toList.head?.any (fun c => !Text.isBlank c)) (hu : source u = m ++ source t)
    (hs : u.takesSuffix = false) (hf : u.followers = t.followers)
    (hread : ∀ {cs r r'}, Next m cs r → Reads r (.marked t) r' → Reads cs (.marked u) r') :
  Written u
  := by
  constructor
  · intro r hr
    rw [hu, String.toList_append, List.append_assoc]
    rw [hf] at hr
    apply hread (next_append m _ hm) (h.marked hr)
  · intro t' r r' ht
    rw [hs] at ht
    cases ht

theorem written_rest {t : TypeExpr} (h : Written t) :
  Written (rest t)
  := written_marked h (m := "...") rfl (by rw [source]) rfl rfl Reads.rest

theorem written_nullable {t : TypeExpr} (h : Written t) :
  Written (nullable t)
  := written_marked h (m := "?") rfl (by rw [source]) rfl rfl Reads.nullable

theorem written_nonNullable {t : TypeExpr} (h : Written t) :
  Written (nonNullable t)
  := written_marked h (m := "!") rfl (by rw [source]) rfl rfl Reads.nonNullable

/-- A function up to its result is a type without marks. -/
theorem reads_function {ts : List TypeExpr} {t : Option TypeExpr} {q r r' : List Char}
    (hts : Reads ('(' :: q) (.params ts) r) (ht : Reads r (.result t) r') :
  Unmarked ("function(".toList ++ q)
    ∧ Reads ("function(".toList ++ q) (.primary (function ts t)) r'
  := by
  have hname : IsName "function" := by decide
  have htext : "function(".toList ++ q = "function".toList ++ '(' :: q := rfl
  rw [htext]
  use hname.unmarked _
  have hparen : Stops "(" ('(' :: q) := stops_cons _ rfl
  have hnext := hname.nextName hparen rfl
  apply Reads.named hnext (Reads.function hnext hts ht)

theorem written_function {ts : List TypeExpr} {t : Option TypeExpr} (h : ∀ u ∈ ts, Written u)
    (ht : ∀ u ∈ t, Written u) :
  Written (function ts t)
  := by
  have hparams : ∀ r, Reads ('(' :: ((", ".intercalate (sources ts)).toList ++ ')' :: r))
      (.params ts) r := by
    intro r
    have hread := reads_params source id
      (fun u hu _ hr => (h u hu).reads_union (hr.mono (by decide))) r
    rw [List.map_id, ← sources_eq_map] at hread
    apply hread
  cases t with
  | none =>
    apply written_of_primary rfl
    intro r hr
    have hresult := Reads.noResult (hr.not_ahead (t := ":") rfl)
    have htext : (source (function ts none)).toList ++ r
        = "function(".toList ++ ((", ".intercalate (sources ts)).toList ++ ')' :: r) := by
      simp
    rw [htext]
    apply reads_function (hparams r) hresult
  | some t =>
    constructor
    · intro r hr
      have hcolon : Next ":" (':' :: ((source t).toList ++ r)) ((source t).toList ++ r) :=
        next_append ":" _ rfl
      have hresult := Reads.result hcolon ((ht t rfl).reads_union hr)
      have htext : (source (function ts (some t))).toList ++ r
          = "function(".toList ++ ((", ".intercalate (sources ts)).toList
            ++ ')' :: ':' :: ((source t).toList ++ r)) := by
        simp
      rw [htext]
      obtain ⟨⟨hq, hn, hp⟩, hprimary⟩ := reads_function (hparams _) hresult
      apply Reads.unmarked hq hn hp hprimary hr.noSuffix
    · intro t' r r' hs
      cases hs

/-- A shaped type with plain names is read from its text. -/
theorem Shaped.written {t : TypeExpr} (h : Shaped .plain t) :
  Written t
  := by
  induction h with
  | name hn hnull => apply written_name hn hnull
  | all => apply written_all
  | null => apply written_null
  | application hn hnull hne _ ih => apply written_application hn hnull hne ih
  | record hk _ ih => apply written_record hk ih
  | optional hs _ ih => apply written_optional hs ih
  | union hlen hopen _ ih => apply written_union hlen hopen ih
  | group hu _ ih => apply written_group hu ih
  | rest _ ih => apply written_rest ih
  | nullable _ ih => apply written_nullable ih
  | nonNullable _ ih => apply written_nonNullable ih
  | function _ _ ih₁ ih₂ => apply written_function ih₁ ih₂

/-- Reading undoes writing. -/
theorem parse_source {t : TypeExpr} (h : Shaped .plain t) :
  parse (source t) = .ok t
  := by
  rw [parse_eq_ok_iff]
  use []
  constructor
  · have hr := h.written.reads_union (stops_nil _)
    rw [List.append_nil] at hr
    apply hr
  · rfl

/-! ### The types that are read -/

/-- A type with plain names is read back from its text.  Every type that is read is shaped, and
its names are plain unless one of them is empty or starts with a point. -/
theorem readable_shapes :
  (∀ t, Shaped .plain t → parse (source t) = .ok t)
    ∧ ∀ s t, parse s = .ok t →
      Shaped .loose t ∧ (Shaped .plain t ↔ ∀ n, Mentions t n → Undotted n)
  := by
  constructor
  · intro t ht
    apply parse_source ht
  · intro s t ht
    have hloose := shaped_of_parse ht
    use hloose
    constructor
    · intro hplain n hn
      apply (hplain.isName_of_mentions hn).1
    · apply hloose.plain_of_loose

/-- A function that takes an optional record and more callbacks and gives one of two types, of
which the last one ends with a result of its own. -/
def callback : TypeExpr :=
  function
    [optional (record [("on", nullable all), ("$key", application (name "Array") [name "a.b"])]),
      rest (union [function [] none])]
    (some (union [null, nonNullable (function [name "x"] (some (name "y")))]))

theorem shaped_callback :
  Shaped .plain callback
  := by
  have hrecord : Shaped .plain
      (record [("on", nullable all), ("$key", application (name "Array") [name "a.b"])]) := by
    have hname : IsName "a.b" := by decide
    have harray : IsName "Array" := by decide
    have hon : IsName "on" := by decide
    have hkey : IsName "$key" := by decide
    apply Shaped.record
    · simpa using ⟨hon, hkey⟩
    · have hon : Shaped .plain (nullable all) := Shaped.nullable Shaped.all
      have hkey : Shaped .plain (application (name "Array") [name "a.b"]) := by
        apply Shaped.application harray (by decide) (by simp)
        simpa using Shaped.name hname (by decide)
      simpa using ⟨hon, hkey⟩
  have hrest : Shaped .plain (rest (union [function [] none])) := by
    apply Shaped.rest
    apply Shaped.group rfl
    apply Shaped.function (by simp) (by simp)
  have hlast : Shaped .plain (nonNullable (function [name "x"] (some (name "y")))) := by
    have hx : IsName "x" := by decide
    have hy : IsName "y" := by decide
    apply Shaped.nonNullable
    apply Shaped.function
    · simpa using Shaped.name hx (by decide)
    · simpa using Shaped.name hy (by decide)
  apply Shaped.function
  · simpa using ⟨Shaped.optional rfl hrecord, hrest⟩
  · have hresult : Shaped .plain
        (union [null, nonNullable (function [name "x"] (some (name "y")))]) := by
      apply Shaped.union (by simp) (by decide)
      simpa using ⟨Shaped.null, hlast⟩
    simpa using hresult

theorem readable_callback :
  Shaped .plain callback ∧ parse (source callback) = .ok callback
    ∧ ∀ n, Mentions callback n → Undotted n
  := by
  have hparse := readable_shapes.1 callback shaped_callback
  refine ⟨shaped_callback, hparse, ?_⟩
  apply (readable_shapes.2 (source callback) callback hparse).2.1 shaped_callback

/-- A name that starts with a point is read. -/
theorem parse_dotted_name :
  parse ".a" = .ok (name ".a") ∧ ¬ Shaped .plain (name ".a")
  := by
  constructor
  · have hend := stops_nil ",>)\x7d|="
    have hnext : Next "." ".a".toList ['a'] := next_append "." ['a'] rfl
    have hprimary : Reads ".a".toList (.primary (name ".a")) [] :=
      reads_name (n := ".a") (by decide) rfl (by decide) hend
    have hmarked := Reads.unmarked hnext.not_ahead hnext.not_ahead hnext.not_ahead hprimary
      (stops_nil (followers all)).noSuffix
    apply parse_eq_ok_iff.2 ⟨[], hmarked.single (stops_nil _), rfl⟩
  · intro h
    cases h with
    | name hn _ => apply hn.1.2 rfl

end DocPages.TypeExpr

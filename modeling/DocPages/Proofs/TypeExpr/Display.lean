import DocPages.Proofs.TypeExpr.Source
import DocPages.TypeExpr.Format
import Mathlib.Tactic.Common

/-!
# Reading displayed forms

The displayed form of a type has no parentheses around unions, and bars between the arguments of an
application, so reading it may group types in another way: a bar after a function belongs to the
result of the function.  The type that is read has the same displayed form, however.  A text is
`Stable` if this holds of it whatever types with bars before them come next, since it is only with
these that the grouping is known.  `Shown.exists_stable` shows it shape by shape.
-/

namespace DocPages.TypeExpr

/-- The types whose displayed form can be read: no record and no mark occurs in them, every name is
plain, and a union or an application has at least one part. -/
inductive Shown : TypeExpr → Prop where
  | name {n : String} :
      IsName n → n ≠ "null" → Shown (name n)
  | all :
      Shown all
  | null :
      Shown null
  | application {n : String} {ts : List TypeExpr} :
      IsName n → n ≠ "null" → ts ≠ [] → (∀ t ∈ ts, Shown t) →
      Shown (application (TypeExpr.name n) ts)
  | union {ts : List TypeExpr} :
      ts ≠ [] → (∀ t ∈ ts, Shown t) → Shown (union ts)
  | rest {t : TypeExpr} :
      Shown t → Shown (rest t)
  | function {ts : List TypeExpr} {r : Option TypeExpr} :
      (∀ t ∈ ts, Shown t) → (∀ t ∈ r, Shown t) → Shown (function ts r)

/-! ### The displayed forms of several types -/

theorem formatAll_cons {t : TypeExpr} {ts : List TypeExpr} {s : String} {ss : List String}
    (ht : t.format = .ok s) (hts : formatAll ts = .ok ss) :
  formatAll (t :: ts) = .ok (s :: ss)
  := by
  rw [formatAll, ht, hts]
  rfl

/-- If each of some types has a displayed form with a property, all have displayed forms with it. -/
theorem exists_formatAll {P : String → Prop} {ts : List TypeExpr}
    (h : ∀ t ∈ ts, ∃ s, t.format = .ok s ∧ P s) :
  ∃ ss, formatAll ts = .ok ss ∧ (∀ s ∈ ss, P s) ∧ ss.length = ts.length
  := by
  induction ts with
  | nil => exact ⟨[], rfl, List.forall_mem_nil P, rfl⟩
  | cons t ts ih =>
    rw [List.forall_mem_cons] at h
    obtain ⟨s, hs, hp⟩ := h.1
    obtain ⟨ss, hss, hps, hlen⟩ := ih h.2
    use s :: ss, formatAll_cons hs hss, List.forall_mem_cons.2 ⟨hp, hps⟩
    rw [List.length_cons, List.length_cons, hlen]

/-- The text is the displayed forms of the types, with a bar before each. -/
def Barred (ts : List TypeExpr) (cs : List Char) : Prop :=
  ∃ ss, formatAll ts = .ok ss ∧ cs = ss.flatMap fun s => '|' :: s.toList

theorem barred_nil :
  Barred [] []
  := ⟨[], rfl, rfl⟩

theorem Barred.cons {t : TypeExpr} {ts : List TypeExpr} {s : String} {cs : List Char}
    (h : Barred ts cs) (ht : t.format = .ok s) :
  Barred (t :: ts) ('|' :: (s.toList ++ cs))
  := by
  obtain ⟨ss, hss, rfl⟩ := h
  exact ⟨s :: ss, formatAll_cons ht hss, rfl⟩

/-- The displayed form of types with bars between them. -/
theorem Barred.format_alternatives {t : TypeExpr} {ts : List TypeExpr} {s : String}
    {cs : List Char} (h : Barred ts cs) (ht : t.format = .ok s) :
  ∃ s', (alternatives t ts).format = .ok s' ∧ s'.toList = s.toList ++ cs
  := by
  obtain ⟨ss, hss, rfl⟩ := h
  cases ts with
  | nil =>
    cases hss
    exact ⟨s, ht, by simp⟩
  | cons u us =>
    use "|".intercalate (s :: ss)
    constructor
    · change (union (t :: u :: us)).format = _
      rw [format, formatAll_cons ht hss]
      rfl
    · apply toList_bars

/-! ### Texts that are read as what they display -/

/-- The text is read as types with a bar before each, and these are displayed by it. -/
def IsTail (cs : List Char) : Prop :=
  ∃ ts, Barred ts cs ∧ ∀ r, Stops ",>)" r → Reads (cs ++ r) (.alternatives ts) r

/-- The text is read as types with bars between them, and these are displayed by it. -/
def IsSum (cs : List Char) : Prop :=
  ∃ t ts s tail, t.format = .ok s ∧ Barred ts tail ∧ cs = s.toList ++ tail
    ∧ ∀ r, Stops ",>)" r →
      Reads (cs ++ r) (.marked t) (tail ++ r) ∧ Reads (tail ++ r) (.alternatives ts) r

/-- Before types with a bar before each, the text is read together with them as what it displays. -/
def Stable (s : String) : Prop :=
  ∀ cs, IsTail cs → IsSum (s.toList ++ cs)

theorem isTail_nil :
  IsTail []
  := by
  use [], barred_nil
  intro r hr
  apply Reads.noBar
  apply hr.not_ahead (t := "|") rfl

theorem IsSum.isTail {cs : List Char} (h : IsSum cs) :
  IsTail ('|' :: cs)
  := by
  obtain ⟨t, ts, s, tail, ht, hts, rfl, hread⟩ := h
  use t :: ts, hts.cons ht
  intro r hr
  obtain ⟨hmarked, halternatives⟩ := hread r hr
  apply Reads.bar (next_append "|" _ rfl) hmarked halternatives

theorem IsSum.exists_union {cs : List Char} (h : IsSum cs) :
  ∃ t s, t.format = .ok s ∧ s.toList = cs ∧ ∀ r, Stops ",>)" r → Reads (cs ++ r) (.union t) r
  := by
  obtain ⟨t, ts, s, tail, ht, hts, rfl, hread⟩ := h
  obtain ⟨s', hs', htext⟩ := hts.format_alternatives ht
  use alternatives t ts, s', hs', htext
  intro r hr
  obtain ⟨hmarked, halternatives⟩ := hread r hr
  apply Reads.union hmarked halternatives

/-- Before what closes it, a stable text is read as a type with this displayed form. -/
theorem Stable.exists_union {s : String} (h : Stable s) :
  ∃ t, t.format = .ok s ∧ ∀ r, Stops ",>)" r → Reads (s.toList ++ r) (.union t) r
  := by
  have hsum := h [] isTail_nil
  rw [List.append_nil] at hsum
  obtain ⟨t, s', ht, htext, hread⟩ := hsum.exists_union
  rw [String.toList_injective htext] at ht
  exact ⟨t, ht, hread⟩

/-! ### Shapes that a bar ends -/

/-- A text is stable if it is read as the type it displays, also before a bar. -/
theorem stable_of_marked {t : TypeExpr} {s : String} (ht : t.format = .ok s)
    (h : ∀ r, Stops ",>)|" r → Reads (s.toList ++ r) (.marked t) r) :
  Stable s
  := by
  rintro cs ⟨ts, hts, hread⟩
  use t, ts, s, cs, ht, hts, rfl
  intro r hr
  have hstops : Stops ",>)|" (cs ++ r) := by
    obtain ⟨ss, -, rfl⟩ := hts
    cases ss with
    | nil => apply hr.mono (by decide)
    | cons u us => exact stops_cons _ rfl
  rw [List.append_assoc]
  exact ⟨h _ hstops, hread r hr⟩

theorem stable_of_primary {t : TypeExpr} {s : String} (ht : t.format = .ok s)
    (h : ∀ r, Stops ",>)|" r →
      Unmarked (s.toList ++ r) ∧ Reads (s.toList ++ r) (.primary t) r) :
  Stable s
  := by
  apply stable_of_marked ht
  intro r hr
  obtain ⟨⟨hq, hn, hp⟩, hprimary⟩ := h r hr
  have hend : Stops (followers all) r := hr.mono (by decide)
  apply Reads.unmarked hq hn hp hprimary hend.noSuffix

/-- A type that is displayed as it is written is displayed by a stable text. -/
theorem Written.stable {t : TypeExpr} (h : Written t) (ht : t.format = .ok (source t))
    (hopen : t.isOpen = false) :
  Stable (source t)
  := by
  apply stable_of_marked ht
  intro r hr
  apply h.marked
  rw [followers, hopen]
  apply hr.mono (by decide)

theorem stable_application {n s : String} (hn : IsName n) (hnull : n ≠ "null") (h : Stable s) :
  Stable (n ++ ".<" ++ s ++ ">")
  := by
  obtain ⟨t, ht, hread⟩ := h.exists_union
  have hformat : (application (name n) [t]).format = .ok (n ++ ".<" ++ s ++ ">") := by
    rw [format, formatAll_cons ht rfl]
    rfl
  apply stable_of_primary hformat
  intro r _
  have htext : (n ++ ".<" ++ s ++ ">").toList ++ r
      = n.toList ++ '.' :: '<' :: (s.toList ++ '>' :: r) := by
    simp
  rw [htext]
  apply reads_application hn hnull
  apply Reads.lastArgument (hread _ (stops_cons r (by rfl))) (next_append ">" r rfl)

/-! ### Bars and marks -/

theorem stable_bars {s : String} {ss : List String} (h : ∀ u ∈ s :: ss, Stable u) :
  Stable ("|".intercalate (s :: ss))
  := by
  induction ss generalizing s with
  | nil =>
    rw [String.intercalate_singleton]
    apply h s List.mem_cons_self
  | cons u us ih =>
    rw [List.forall_mem_cons] at h
    intro cs hcs
    have hsum := h.1 _ (ih h.2 cs hcs).isTail
    have htext : ("|".intercalate (s :: u :: us)).toList ++ cs
        = s.toList ++ '|' :: (("|".intercalate (u :: us)).toList ++ cs) := by
      simp
    rw [htext]
    apply hsum

theorem stable_rest {s : String} (h : Stable s) :
  Stable ("..." ++ s)
  := by
  intro cs hcs
  obtain ⟨t, ts, s', tail, ht, hts, htext, hread⟩ := h cs hcs
  have hformat : (TypeExpr.rest t).format = .ok ("..." ++ s') := by
    rw [format, ht]
    rfl
  use TypeExpr.rest t, ts, "..." ++ s', tail, hformat, hts
  rw [String.toList_append, List.append_assoc, htext, String.toList_append, List.append_assoc]
  use rfl
  intro r hr
  obtain ⟨hmarked, halternatives⟩ := hread r hr
  rw [htext] at hmarked
  rw [List.append_assoc]
  exact ⟨Reads.rest (next_append "..." _ rfl) hmarked, halternatives⟩

/-! ### Functions -/

theorem exists_params {ss : List String} (h : ∀ s ∈ ss, Stable s) :
  ∃ ts, formatAll ts = .ok ss
    ∧ ∀ r, Reads ('(' :: ((", ".intercalate ss).toList ++ ')' :: r)) (.params ts) r
  := by
  have hunion := fun s hs => (h s hs).exists_union
  choose! typeOf hformat hread using hunion
  use ss.map typeOf
  constructor
  · clear h hread
    induction ss with
    | nil => rfl
    | cons s ss ih =>
      rw [List.forall_mem_cons] at hformat
      apply formatAll_cons hformat.1 (ih hformat.2)
  · intro r
    have hparams := reads_params id typeOf
      (fun s hs q hq => hread s hs q (hq.mono (by decide))) r
    rw [List.map_id] at hparams
    apply hparams

theorem stable_function {ss : List String} (h : ∀ s ∈ ss, Stable s) :
  Stable ("function(" ++ ", ".intercalate ss ++ ")")
  := by
  obtain ⟨ts, hts, hread⟩ := exists_params h
  have hformat : (function ts none).format = .ok ("function(" ++ ", ".intercalate ss ++ ")") := by
    rw [format, hts]
    rfl
  apply stable_of_primary hformat
  intro r hr
  have htext : ("function(" ++ ", ".intercalate ss ++ ")").toList ++ r
      = "function(".toList ++ ((", ".intercalate ss).toList ++ ')' :: r) := by
    simp
  rw [htext]
  apply reads_function (hread r) (Reads.noResult (hr.not_ahead (t := ":") rfl))

/-- The types with bars before them that come next belong to the result. -/
theorem stable_function_result {ss : List String} {s : String} (h : ∀ u ∈ ss, Stable u)
    (hs : Stable s) :
  Stable ("function(" ++ ", ".intercalate ss ++ ")" ++ ":" ++ s)
  := by
  intro cs hcs
  obtain ⟨ts, hts, hparams⟩ := exists_params h
  obtain ⟨t, s', ht, htext, hread⟩ := (hs cs hcs).exists_union
  have hformat : (function ts (some t)).format
      = .ok ("function(" ++ ", ".intercalate ss ++ ")" ++ ":" ++ s') := by
    rw [format, hts, ok_bind]
    dsimp only
    rw [ht]
    rfl
  -- The result goes on to the end of `cs`, so no type with a bar before it is left.
  use function ts (some t), [], "function(" ++ ", ".intercalate ss ++ ")" ++ ":" ++ s', [],
    hformat, barred_nil
  constructor
  · simp [htext]
  · intro r hr
    have hresult := Reads.result (next_append ":" _ rfl) (hread r hr)
    have hwhole : ("function(" ++ ", ".intercalate ss ++ ")" ++ ":" ++ s).toList ++ cs ++ r
        = "function(".toList
          ++ ((", ".intercalate ss).toList ++ ')' :: (":".toList ++ (s.toList ++ cs ++ r))) := by
      simp
    rw [hwhole]
    obtain ⟨⟨hq, hn, hp⟩, hprimary⟩ := reads_function (hparams _) hresult
    have hend : Stops (followers all) r := hr.mono (by decide)
    use Reads.unmarked hq hn hp hprimary hend.noSuffix
    apply Reads.noBar
    apply hr.not_ahead (t := "|") rfl

/-! ### Every shape -/

theorem Shown.exists_stable {t : TypeExpr} (h : Shown t) :
  ∃ s, t.format = .ok s ∧ Stable s
  := by
  induction h with
  | name hn hnull => exact ⟨_, rfl, (written_name hn hnull).stable rfl rfl⟩
  | all => exact ⟨_, rfl, written_all.stable rfl rfl⟩
  | null => exact ⟨_, rfl, written_null.stable rfl rfl⟩
  | @application n ts hn hnull hne _ ih =>
    obtain ⟨ss, hss, hstable, hlen⟩ := exists_formatAll ih
    use n ++ ".<" ++ "|".intercalate ss ++ ">"
    constructor
    · rw [format, hss]
      rfl
    · cases ss with
      | nil => cases hne (List.eq_nil_of_length_eq_zero hlen.symm)
      | cons s ss => apply stable_application hn hnull (stable_bars hstable)
  | union hne _ ih =>
    obtain ⟨ss, hss, hstable, hlen⟩ := exists_formatAll ih
    use "|".intercalate ss
    constructor
    · rw [format, hss]
      rfl
    · cases ss with
      | nil => cases hne (List.eq_nil_of_length_eq_zero hlen.symm)
      | cons s ss => apply stable_bars hstable
  | rest _ ih =>
    obtain ⟨s, hs, hstable⟩ := ih
    use "..." ++ s
    constructor
    · rw [format, hs]
      rfl
    · apply stable_rest hstable
  | @function ts r _ _ ih₁ ih₂ =>
    obtain ⟨ss, hss, hstable, -⟩ := exists_formatAll ih₁
    cases r with
    | none =>
      use "function(" ++ ", ".intercalate ss ++ ")"
      constructor
      · rw [format, hss]
        rfl
      · apply stable_function hstable
    | some r =>
      obtain ⟨s, hs, hresult⟩ := ih₂ r rfl
      use "function(" ++ ", ".intercalate ss ++ ")" ++ ":" ++ s
      constructor
      · rw [format, hss, ok_bind]
        dsimp only
        rw [hs]
        rfl
      · apply stable_function_result hstable hresult

/-- The displayed form of a type is read as a type with the same displayed form. -/
theorem exists_parse_format {t : TypeExpr} (h : Shown t) :
  ∃ s u, t.format = .ok s ∧ parse s = .ok u ∧ u.format = .ok s
  := by
  obtain ⟨s, hs, hstable⟩ := h.exists_stable
  obtain ⟨u, hu, hread⟩ := hstable.exists_union
  use s, u, hs
  constructor
  · have hr := hread [] (stops_nil _)
    rw [List.append_nil] at hr
    apply parse_eq_ok_iff.2 ⟨[], hr, rfl⟩
  · apply hu

/-- A union within a union, with a function that is not the last type in it.  When its displayed
form is read, the result of the function goes on to the end. -/
def nestedUnion : TypeExpr :=
  union
    [rest (union [function [name "b.c", application (name "Array") [name "x", all]] (some null),
      name "a"]),
      name "$e"]

theorem shown_nestedUnion :
  Shown nestedUnion
  := by
  have hname : ∀ n ∈ ["a", "b.c", "x", "$e"], IsName n ∧ n ≠ "null" := by decide
  have hshown : ∀ n ∈ ["a", "b.c", "x", "$e"], Shown (name n) := by
    intro n hn
    apply Shown.name (hname n hn).1 (hname n hn).2
  have harray : Shown (application (name "Array") [name "x", all]) := by
    have harray : IsName "Array" := by decide
    apply Shown.application harray (by decide) (by simp)
    simpa using ⟨hshown "x" (by decide), Shown.all⟩
  have hfunction : Shown
      (function [name "b.c", application (name "Array") [name "x", all]] (some null)) := by
    apply Shown.function
    · simpa using ⟨hshown "b.c" (by decide), harray⟩
    · simpa using Shown.null
  apply Shown.union (by simp)
  rw [List.forall_mem_cons, List.forall_mem_singleton]
  constructor
  · apply Shown.rest
    apply Shown.union (by simp)
    simpa using ⟨hfunction, hshown "a" (by decide)⟩
  · apply hshown "$e" (by decide)

/-- In a type that is read, a bar does not come after the result of a function. -/
theorem not_shaped_nestedUnion :
  ¬ Shaped .loose nestedUnion
  := by
  intro h
  cases h with
  | union _ _ hts =>
    cases hts _ List.mem_cons_self with
    | rest h =>
      cases h with
      | union _ hopen _ => cases hopen _ List.mem_cons_self

theorem exists_parse_format_nestedUnion :
  Shown nestedUnion ∧ nestedUnion.format = .ok "...function(b.c, Array.<x|*>):null|a|$e"
    ∧ ∃ u, parse "...function(b.c, Array.<x|*>):null|a|$e" = .ok u ∧ u ≠ nestedUnion
      ∧ u.format = .ok "...function(b.c, Array.<x|*>):null|a|$e"
  := by
  have hformat : nestedUnion.format = .ok "...function(b.c, Array.<x|*>):null|a|$e" := rfl
  obtain ⟨s, u, hs, hparse, hu⟩ := exists_parse_format shown_nestedUnion
  rw [hformat] at hs
  cases hs
  refine ⟨shown_nestedUnion, hformat, u, hparse, ?_, hu⟩
  rintro rfl
  apply not_shaped_nestedUnion (shaped_of_parse hparse)

end DocPages.TypeExpr

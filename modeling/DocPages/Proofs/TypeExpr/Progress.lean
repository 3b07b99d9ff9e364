import DocPages.Proofs.TypeExpr.Course
import Mathlib.Data.List.Infix
import Mathlib.Logic.Relation

/-!
# Progress in reading types

Each reader calls only readers that come below it: further on in the text, or lower in the grammar
at the same place.  A name can be empty, but only before an angle bracket, which is read with it.
So reading comes to an end.  Types are read up to a later place in the text, and a fault is at a
place in the text where something is missing.
-/

namespace DocPages.TypeExpr

/-! ### Ends of a text -/

/-- `r` is an end of `cs`, and not all of it. -/
structure Past (cs r : List Char) : Prop where
  isSuffix : r <:+ cs
  length_lt : r.length < cs.length

namespace Past

variable {cs r q : List Char}

theorem trans_isSuffix (h : Past cs r) (h' : q <:+ r) :
  Past cs q
  := by
  constructor
  · apply h'.trans h.isSuffix
  · apply Nat.lt_of_le_of_lt h'.length_le h.length_lt

theorem of_isSuffix (h : r <:+ cs) (h' : Past r q) :
  Past cs q
  := by
  constructor
  · apply h'.isSuffix.trans h
  · apply Nat.lt_of_lt_of_le h'.length_lt h.length_le

theorem trans (h : Past cs r) (h' : Past r q) :
  Past cs q
  := h.trans_isSuffix h'.isSuffix

theorem isSuffix_trimLeft (cs : List Char) :
  Text.trimLeft cs <:+ cs
  := List.dropWhile_suffix _

theorem of_behind? {t : String} (h : behind? t cs = some r) (ht : t.toList ≠ [] := by decide) :
  Past cs r
  := by
  rw [behind?_eq_some_iff] at h
  constructor
  · apply List.IsSuffix.trans _ (isSuffix_trimLeft cs)
    rw [h]
    apply List.suffix_append
  · apply h.length_lt ht

end Past

theorem NextName.isSuffix {n cs r : List Char} (h : NextName n cs r) :
  r <:+ cs
  := by
  apply List.IsSuffix.trans _ (Past.isSuffix_trimLeft cs)
  rw [h.eq_append]
  apply List.suffix_append

theorem NextName.past {n cs r : List Char} (h : NextName n cs r) (hn : n ≠ []) :
  Past cs r
  := ⟨h.isSuffix, h.length_lt hn⟩

/-- What a fault says is missing is not at the start of the text. -/
def Missing.Lacks : Missing → List Char → Prop
  | .token t, cs => ¬ t.toList <+: cs
  | .typeName, cs => ∀ c ∈ cs.head?, isNameChar c = false
  | .ending, cs => cs ≠ []

/-- The fault is at an end of the text, and what it says is missing is not there. -/
structure Fault.IsIn (f : Fault) (cs : List Char) : Prop where
  isSuffix : f.rest <:+ cs
  lacks : f.missing.Lacks f.rest

theorem Fault.IsIn.of_isSuffix {f : Fault} {cs r : List Char} (hr : r <:+ cs) (h : f.IsIn r) :
  f.IsIn cs
  := ⟨h.isSuffix.trans hr, h.lacks⟩

/-! ### What a course keeps to -/

namespace Reader

/-- How high a reader is in the grammar: without moving on in the text, a reader calls only
readers that are lower. -/
def level : Reader → Nat
  | alternatives | suffixes _ | named => 0
  | primary => 1
  | marked => 2
  | union => 3
  | arguments | moreParams | result | fields => 4
  | params => 5

/-- What a reader leaves of a text.  Three of them may find nothing. -/
def Leaves : Reader → List Char → List Char → Prop
  | alternatives, cs, r | suffixes _, cs, r | result, cs, r => r <:+ cs
  | _, cs, r => Past cs r

theorem Leaves.isSuffix {k : Reader} {cs r : List Char} (h : k.Leaves cs r) :
  r <:+ cs
  := by
  cases k with
  | alternatives | suffixes _ | result => exact h
  | _ => exact h.1

/-- What comes of a reader. -/
def Keeps (k : Reader) (cs : List Char) : Except Fault (k.Value × List Char) → Prop
  | .ok (_, r) => k.Leaves cs r
  | .error f => f.IsIn cs

end Reader

/-- A reader at a text comes below another one: further on in the text, or lower at the same
place. -/
inductive Below : Reader × List Char → Reader × List Char → Prop where
  | past {k k' : Reader} {cs r : List Char} : Past cs r → Below (k', r) (k, cs)
  | level {k k' : Reader} {cs : List Char} : k'.level < k.level → Below (k', cs) (k, cs)

theorem Below.isSuffix {k k' : Reader} {cs r : List Char} (h : Below (k', r) (k, cs)) :
  r <:+ cs
  := by
  cases h with
  | past hp => exact hp.isSuffix
  | level _ => exact List.suffix_refl cs

theorem wellFounded_below :
  WellFounded Below
  := by
  apply Subrelation.wf _ (InvImage.wf (fun c : Reader × List Char => (c.2.length, c.1.level))
    (Prod.lex Nat.lt_wfRel Nat.lt_wfRel).wf)
  intro c' c h
  cases h with
  | past hp => exact .left _ _ hp.length_lt
  | level hl => exact .right _ hl

/-- A course of the reader `k` at `cs`: it calls what comes below and leaves what `k` leaves. -/
def Course.Sound (k : Reader) (cs : List Char) : Course (k.Value × List Char) → Prop
  | done (_, r) => k.Leaves cs r
  | fail f => f.IsIn cs
  | call k' cs' next => Below (k', cs') (k, cs) ∧ ∀ v r, k'.Leaves cs' r → (next (v, r)).Sound k cs

theorem Course.sound_expecting {k : Reader} {cs r : List Char} {t : String}
    {next : List Char → Course (k.Value × List Char)} (hr : r <:+ cs)
    (h : ∀ q, Past r q → (next q).Sound k cs) (ht : t.toList ≠ [] := by decide) :
  (Course.expecting t r next).Sound k cs
  := by
  unfold expecting
  cases hb : behind? t r with
  | some q => exact h q (.of_behind? hb ht)
  | none =>
    have hlacks : (Missing.token t).Lacks (Text.trimLeft r) := by
      rintro ⟨q, hq⟩
      rw [behind?_eq_none_iff] at hb
      exact hb ⟨q, hq.symm⟩
    exact ⟨(Past.isSuffix_trimLeft r).trans hr, hlacks⟩

theorem Course.sound_mark {cs r : List Char} (hr : Past cs r) (f : TypeExpr → TypeExpr) :
  (Course.call .marked r fun (t, r') => .done (f t, r')).Sound .marked cs
  := by
  use .past hr
  intro t r' hr'
  exact hr.trans hr'

/-- A fault where a name should be. -/
theorem isIn_of_name? {cs : List Char} (h : name? cs = none) :
  Fault.IsIn ⟨.typeName, Text.trimLeft cs⟩ cs
  := by
  use Past.isSuffix_trimLeft cs
  intro c hc
  unfold name? at h
  split at h
  · rename_i he
    dsimp only at hc
    cases hcs : Text.trimLeft cs with
    | nil => simp [hcs] at hc
    | cons d ds =>
      rw [hcs] at he hc
      cases hc
      simpa [List.takeWhile_cons] using he
  · cases h

/-- The course of each reader calls what comes below and leaves what the reader leaves. -/
theorem Reader.sound_course (k : Reader) (cs : List Char) :
  (k.course cs).Sound k cs
  := by
  cases k with
  | union =>
    use .level (by decide)
    intro t r hr
    use .past hr
    intro ts r' hr'
    exact Past.trans_isSuffix hr hr'
  | alternatives =>
    rw [course]
    split
    · rename_i r ha
      have hr := Past.of_behind? ha
      use .past hr
      intro t r' hr'
      use .past (hr.trans hr')
      intro ts r'' hr''
      exact hr''.isSuffix.trans (hr.trans hr').isSuffix
    · exact List.suffix_refl cs
  | marked =>
    rw [course]
    split
    · rename_i r ha
      exact Course.sound_mark (.of_behind? ha) nullable
    split
    · rename_i r ha
      exact Course.sound_mark (.of_behind? ha) nonNullable
    split
    · rename_i r ha
      exact Course.sound_mark (.of_behind? ha) TypeExpr.rest
    · use .level (by decide)
      intro t r hr
      use .past hr
      intro t' r' hr'
      exact Past.trans_isSuffix hr hr'
  | suffixes t =>
    rw [course]
    split
    · rename_i r ha
      use .past (.of_behind? ha)
      intro t' r' hr'
      exact hr'.isSuffix.trans (Past.of_behind? ha).isSuffix
    split
    · rename_i r ha
      use .past (.of_behind? ha)
      intro t' r' hr'
      exact hr'.isSuffix.trans (Past.of_behind? ha).isSuffix
    · exact List.suffix_refl cs
  | primary =>
    rw [course]
    split
    · rename_i r ha
      exact Past.of_behind? ha
    split
    · rename_i r ha
      have hr := Past.of_behind? ha
      use .past hr
      intro t r' hr'
      apply Course.sound_expecting (hr.trans hr').isSuffix
      intro r'' hr''
      exact (hr.trans hr').trans hr''
    split
    · rename_i r ha
      have hr := Past.of_behind? ha
      split
      · rename_i r' hb
        exact hr.trans (.of_behind? hb)
      · use .past hr
        intro fs r' hr'
        exact hr.trans hr'
    · use .level (by decide)
      intro t r hr
      exact hr
  | named =>
    rw [course]
    split
    · rename_i hnone
      exact isIn_of_name? hnone
    rename_i n r hr hsome
    have hn := nextName_of_name? hsome
    split
    · rename_i hnull
      apply hn.past
      rw [hnull]
      decide
    split
    · rename_i hf
      have hr : Past cs r := by
        apply hn.past
        rw [hf.1]
        decide
      use .past hr
      intro ts r' hr'
      use .past (hr.trans hr')
      intro t r'' hr''
      exact (hr.trans hr').trans_isSuffix hr''
    split
    · rename_i r' ha
      have hr' : Past cs r' := by
        apply Past.of_isSuffix hn.isSuffix
        rw [Option.or_eq_some_iff] at ha
        rcases ha with ha | ⟨-, ha⟩
        · exact .of_behind? ha
        · exact .of_behind? ha
      use .past hr'
      intro ts r'' hr''
      exact hr'.trans hr''
    · rename_i ha
      rw [Option.or_eq_none_iff] at ha
      exact hn.past (hn.ne_nil (behind?_eq_none_iff.1 ha.1))
  | arguments =>
    use .level (by decide)
    intro t r hr
    dsimp only
    split
    · rename_i r' ha
      have hr' := Past.trans hr (.of_behind? ha)
      use .past hr'
      intro ts r'' hr''
      exact hr'.trans hr''
    · apply Course.sound_expecting hr.isSuffix
      intro r' hr'
      exact Past.trans hr hr'
  | params =>
    rw [course]
    apply Course.sound_expecting (List.suffix_refl cs)
    intro r hr
    split
    · rename_i r' ha
      exact hr.trans (.of_behind? ha)
    · use .past hr
      intro ts r' hr'
      exact hr.trans hr'
  | moreParams =>
    use .level (by decide)
    intro t r hr
    dsimp only
    split
    · rename_i r' ha
      exact Past.trans hr (.of_behind? ha)
    · apply Course.sound_expecting hr.isSuffix
      intro r' hr'
      use .past (Past.trans hr hr')
      intro ts r'' hr''
      exact (Past.trans hr hr').trans hr''
  | result =>
    rw [course]
    split
    · rename_i r ha
      have hr := Past.of_behind? ha
      use .past hr
      intro t r' hr'
      exact (hr.trans hr').isSuffix
    · exact List.suffix_refl cs
  | fields =>
    rw [course]
    split
    · rename_i hnone
      exact isIn_of_name? hnone
    rename_i n r hr hsome
    have hn := (nextName_of_name? hsome).isSuffix
    apply Course.sound_expecting hn
    intro r' hr'
    have hr' := Past.of_isSuffix hn hr'
    use .past hr'
    intro t r'' hr''
    have hr'' := hr'.trans hr''
    dsimp only
    split
    · rename_i q ha
      exact hr''.trans (.of_behind? ha)
    · apply Course.sound_expecting hr''.isSuffix
      intro q hq
      have hq := hr''.trans hq
      use .past hq
      intro fs q' hq'
      exact hq.trans hq'

/-! ### Courses come to an end -/

/-- A course comes to an end if the courses that come below do. -/
theorem Course.Sound.exists_ends {k : Reader} {cs : List Char} {p : Course (k.Value × List Char)}
    (hp : p.Sound k cs)
    (hbelow : ∀ k' cs', Below (k', cs') (k, cs) →
      ∃ x, (k'.course cs').Ends x ∧ k'.Keeps cs' x) :
  ∃ x, p.Ends x ∧ k.Keeps cs x
  := by
  induction p with
  | done a => exact ⟨.ok a, .done, hp⟩
  | fail f => exact ⟨.error f, .fail, hp⟩
  | call k' cs' next ih =>
    obtain ⟨hcall, hnext⟩ := hp
    obtain ⟨x, hx, hkeeps⟩ := hbelow k' cs' hcall
    cases x with
    | ok a =>
      obtain ⟨y, hy, hkeeps⟩ := ih a (hnext a.1 a.2 hkeeps)
      exact ⟨y, .call hx hy, hkeeps⟩
    | error f => exact ⟨.error f, .callFails hx, hkeeps.of_isSuffix hcall.isSuffix⟩

namespace Reader

theorem exists_ends (k : Reader) (cs : List Char) :
  ∃ x, (k.course cs).Ends x ∧ k.Keeps cs x
  := by
  induction hc : (k, cs) using wellFounded_below.induction generalizing k cs with
  | _ c ih =>
    subst hc
    apply (k.sound_course cs).exists_ends
    intro k' cs' hbelow
    exact ih (k', cs') hbelow k' cs' rfl

/-- The course of a reader comes to an end with what the reader finds, and with nothing else. -/
theorem ends_iff (k : Reader) (cs : List Char) (x : Except Fault (k.Value × List Char)) :
  (k.course cs).Ends x ↔ k.read cs = x
  := by
  rw [k.read_eq_run]
  constructor
  · intro h
    apply h.run_eq
  · rintro rfl
    obtain ⟨x, hx, -⟩ := k.exists_ends cs
    rwa [hx.run_eq]

theorem keeps_read (k : Reader) (cs : List Char) :
  k.Keeps cs (k.read cs)
  := by
  obtain ⟨x, hx, hkeeps⟩ := k.exists_ends cs
  rwa [k.read_eq_run, hx.run_eq]

end Reader

/-! ### Calls -/

theorem Course.Asks.isBelow {k : Reader} {cs : List Char} {p : Course (k.Value × List Char)}
    {c : Reader × List Char} (h : p.Asks c) (hp : p.Sound k cs) :
  Below c (k, cs)
  := by
  induction h with
  | here => exact hp.1
  | @later k' cs' next a c hends _ ih =>
    have hkeeps := k'.keeps_read cs'
    rw [(k'.ends_iff cs' _).1 hends] at hkeeps
    apply ih
    exact hp.2 a.1 a.2 hkeeps

theorem Below.trans {c c' c'' : Reader × List Char} (h : Below c' c) (h' : Below c'' c') :
  Below c'' c
  := by
  cases h with
  | past hp =>
    cases h' with
    | past hp' => exact .past (hp.trans hp')
    | level _ => exact .past hp
  | level hl =>
    cases h' with
    | past hp' => exact .past hp'
    | level hl' => exact .level (Nat.lt_trans hl' hl)

theorem below_of_transGen {c c' : Reader × List Char} (h : Relation.TransGen Calls c c') :
  Below c' c
  := by
  induction h with
  | single h => exact h.isBelow (Reader.sound_course _ _)
  | tail _ h ih => exact ih.trans (h.isBelow (Reader.sound_course _ _))

/-- A chain of calls that does not end lower than it starts has moved on in the text. -/
theorem past_of_transGen {k k' : Reader} {cs r : List Char}
    (h : Relation.TransGen Calls (k, cs) (k', r)) (hl : k.level ≤ k'.level) :
  Past cs r
  := by
  cases below_of_transGen h with
  | past hp => exact hp
  | level hlt => exact absurd hl (Nat.not_le_of_lt hlt)

/-! ### Offsets -/

/-- `r` is what is left of a text from an offset on. -/
def LeftAt (text r : List Char) (q : Nat) : Prop :=
  q ≤ text.length ∧ r = text.drop q

theorem exists_leftAt {text r : List Char} {p : Nat} (hp : p ≤ text.length)
    (h : r <:+ text.drop p) :
  ∃ q, p ≤ q ∧ LeftAt text r q
  := by
  have hle := h.length_le
  rw [List.length_drop] at hle
  have hr : r <:+ text := h.trans (List.drop_suffix p text)
  use text.length - r.length
  refine ⟨by omega, Nat.sub_le _ _, ?_⟩
  exact List.suffix_iff_eq_drop.1 hr

theorem Past.exists_leftAt {text r : List Char} {p : Nat} (hp : p ≤ text.length)
    (h : Past (text.drop p) r) :
  ∃ q, p < q ∧ LeftAt text r q
  := by
  obtain ⟨q, hle, hq⟩ := TypeExpr.exists_leftAt hp h.isSuffix
  use q
  refine ⟨?_, hq⟩
  have hlt := h.length_lt
  rw [hq.2, List.length_drop, List.length_drop] at hlt
  omega

theorem LeftAt.eq_iff {text r : List Char} {p q : Nat} (h : LeftAt text r q)
    (hp : p ≤ text.length) :
  q = p ↔ r = text.drop p
  := by
  obtain ⟨hq, rfl⟩ := h
  constructor
  · rintro rfl
    rfl
  · intro he
    have hlength := congrArg List.length he
    rw [List.length_drop, List.length_drop] at hlength
    omega

/-- A name is read without moving on exactly before a point and an angle bracket. -/
theorem NextName.eq_iff {n cs r : List Char} (h : NextName n cs r) :
  r = cs ↔ ".<".toList <+: cs
  := by
  constructor
  · rintro rfl
    have hle := h.length_le
    obtain rfl : n = [] := List.eq_nil_of_length_eq_zero (by omega)
    obtain ⟨q, hq⟩ := isSome_accept?_iff.1 (accept?_of_name?_nil h.name?_eq)
    rw [Next, h.eq_append, List.nil_append] at hq
    exact ⟨q, hq.symm⟩
  · rintro ⟨q, rfl⟩
    have htrim : Text.trimLeft (".<".toList ++ q) = '.' :: '<' :: q :=
      Text.trimLeft_cons_of_not (by decide) ('<' :: q)
    have hsplit := h.2
    rw [htrim] at hsplit
    have hpoint : isNameChar '.' := by decide
    have hangle : isNameChar '<' = false := by decide
    simp only [splitName, List.takeWhile_cons, List.dropWhile_cons, hpoint, hangle] at hsplit
    cases hsplit
    rfl

/-- Something is missing where the text of a type is not read to its end. -/
theorem isIn_of_read {cs : List Char} {f : Fault} (h : read cs = .error f) :
  f.IsIn cs
  := by
  have hkeeps := Reader.keeps_read .union cs
  rw [Reader.read] at hkeeps
  unfold read at h
  cases hunion : readUnion cs with
  | error g =>
    rw [hunion] at h hkeeps
    cases h
    exact hkeeps
  | ok x =>
    obtain ⟨t, r⟩ := x
    rw [hunion] at h hkeeps
    have hpast : Past cs r.val := hkeeps
    rw [ok_bind] at h
    dsimp only at h
    split at h
    · cases h
    · rename_i hne
      cases h
      exact ⟨(Past.isSuffix_trimLeft r.val).trans hpast.isSuffix, hne⟩

/-- What a fault lacks is missing at the offset that its error names. -/
theorem Fault.IsIn.drop_offset {f : Fault} {s : String} (h : f.IsIn s.toList) :
  s.toList.drop (f.toError s).offset = f.rest
  := (List.suffix_iff_eq_drop.1 h.isSuffix).symm

/-! ### Reading from an offset -/

/-- What is left behind a type, a type with marks or one without them, is left at a later offset,
and what is left behind a name at a later offset unless a point and an angle bracket stand at the
start. -/
structure Progress (text : List Char) (p : Nat) : Prop where
  union : ∀ t r, readUnion (text.drop p) = .ok (t, r) → ∃ q, p < q ∧ LeftAt text r.val q
  marked : ∀ t r, readMarked (text.drop p) = .ok (t, r) → ∃ q, p < q ∧ LeftAt text r.val q
  primary : ∀ t r, readPrimary (text.drop p) = .ok (t, r) → ∃ q, p < q ∧ LeftAt text r.val q
  name : ∀ n r, name? (text.drop p) = some (n, r) →
    ∃ q, p ≤ q ∧ LeftAt text r.val q ∧ (q = p ↔ ".<".toList <+: text.drop p)

theorem progress {text : List Char} {p : Nat} (hp : p ≤ text.length) :
  Progress text p
  := by
  constructor
  · intro t r h
    have hkeeps := Reader.keeps_read .union (text.drop p)
    rw [Reader.read, h] at hkeeps
    exact Past.exists_leftAt hp hkeeps
  · intro t r h
    have hkeeps := Reader.keeps_read .marked (text.drop p)
    rw [Reader.read, h] at hkeeps
    exact Past.exists_leftAt hp hkeeps
  · intro t r h
    have hkeeps := Reader.keeps_read .primary (text.drop p)
    rw [Reader.read, h] at hkeeps
    exact Past.exists_leftAt hp hkeeps
  · intro n r h
    have hn := nextName_of_name? h
    obtain ⟨q, hle, hq⟩ := exists_leftAt hp hn.isSuffix
    use q, hle, hq
    rw [hq.eq_iff hp, hn.eq_iff]

/-- Reading a type moves on in its text.  Types are read up to a later offset, though a name may be
read where it starts; a chain of calls that comes back to a reader, as in each turn of a loop, has
moved on; so every reading comes to an end, and if there is an error, it names an offset in the
text at which something is missing. -/
theorem reading_progresses (s : String) :
  (∀ p ≤ s.toList.length, Progress s.toList p)
    ∧ (∀ k k' cs r, Relation.TransGen Calls (k, cs) (k', r) → k.level ≤ k'.level → Past cs r)
    ∧ (∀ k cs x, (Reader.course k cs).Ends x ↔ k.read cs = x)
    ∧ ∀ e, parse s = .error e → e.text = s ∧ e.offset ≤ s.toList.length
      ∧ e.missing.Lacks (s.toList.drop e.offset)
  := by
  refine ⟨fun p hp => progress hp, fun k k' cs r => past_of_transGen, Reader.ends_iff, ?_⟩
  intro e he
  unfold parse at he
  cases hread : read s.toList with
  | ok t =>
    rw [hread] at he
    cases he
  | error f =>
    rw [hread] at he
    cases he
    have hf := isIn_of_read hread
    refine ⟨rfl, Nat.sub_le _ _, ?_⟩
    rw [hf.drop_offset]
    exact hf.lacks

end DocPages.TypeExpr

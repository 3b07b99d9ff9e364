import DocPages.TypeExpr.Reader
import Mathlib.Data.List.TakeWhile
import Mathlib.Tactic.Common

/-!
# The grammar of types

`Reads cs p r` says that a text `cs` starts with the phrase `p` and goes on with `r`.  A phrase
holds what it stands for: a type, some types, the fields of a record.  There is a rule for each
way the readers can go, and `Reads` is what the readers do: `reads_of_readUnion` finds the rules
behind a reading, `Reads.read` follows rules in the readers, and together they give
`parse_eq_ok_iff`.
-/

namespace DocPages

/-- What follows in an `Except` computation that succeeds was reached through a success. -/
theorem exists_of_bind_eq_ok {ε α β : Type} {x : Except ε α} {f : α → Except ε β} {b : β}
    (h : x >>= f = .ok b) :
  ∃ a, x = .ok a ∧ f a = .ok b
  := by
  cases x with
  | error e => cases h
  | ok a => exact ⟨a, rfl, h⟩

theorem ok_bind {ε α β : Type} (a : α) (f : α → Except ε β) :
  (Except.ok a >>= f) = f a
  := rfl

theorem exists_of_any_head? {cs : List Char} {p : Char → Bool} (h : cs.head?.any p) :
  ∃ c ds, cs = c :: ds ∧ p c
  := by
  cases cs with
  | nil => cases h
  | cons c ds => exact ⟨c, ds, rfl, h⟩

namespace TypeExpr

open Text (Rest Tail)

/-! ### Tokens -/

/-- After blanks, `cs` goes on with the token `t` and then with `r`. -/
def Next (t : String) (cs r : List Char) : Prop :=
  Text.trimLeft cs = t.toList ++ r

/-- After blanks, `cs` goes on with the token `t`. -/
def Ahead (t : String) (cs : List Char) : Prop :=
  ∃ r, Next t cs r

/-- After blanks, `cs` goes on with the name `n` and then with `r`. -/
def NextName (n cs r : List Char) : Prop :=
  (Text.trimLeft cs).takeWhile isNameChar ≠ [] ∧ splitName (Text.trimLeft cs) = (n, r)

theorem Next.length_lt {t : String} {cs r : List Char} (ht : t.toList ≠ []) (h : Next t cs r) :
  r.length < cs.length
  := by
  have hl := Text.length_trimLeft_le cs
  have hp := List.length_pos_iff.2 ht
  rw [h, List.length_append] at hl
  omega

theorem next_of_accept? {t : String} {cs : List Char} {ht : t.toList ≠ []} {r : Rest cs}
    (h : accept? t cs ht = some r) :
  Next t cs r.val
  := accept?_eq_some_iff.1 h

theorem accept?_of_next {t : String} {cs r : List Char} {ht : t.toList ≠ []} (h : Next t cs r) :
  accept? t cs ht = some ⟨r, h.length_lt ht⟩
  := accept?_eq_some_iff.2 h

theorem accept?_eq_none_iff {t : String} {cs : List Char} {ht : t.toList ≠ []} :
  accept? t cs ht = none ↔ ¬ Ahead t cs
  := by
  constructor
  · rintro h ⟨r, hr⟩
    rw [accept?_of_next hr] at h
    cases h
  · intro h
    cases ha : accept? t cs ht with
    | none => rfl
    | some r => exact absurd ⟨r.val, next_of_accept? ha⟩ h

theorem isSome_accept?_iff {t : String} {cs : List Char} {ht : t.toList ≠ []} :
  (accept? t cs ht).isSome ↔ Ahead t cs
  := by
  rw [← not_iff_not, Option.not_isSome_iff_eq_none, accept?_eq_none_iff]

theorem next_of_expect {t : String} {cs : List Char} {ht : t.toList ≠ []} {r : Rest cs}
    (h : expect t cs ht = .ok r) :
  Next t cs r.val
  := by
  unfold expect at h
  split at h
  · rename_i r' hr
    cases h
    apply next_of_accept? hr
  · cases h

theorem expect_of_next {t : String} {cs r : List Char} {ht : t.toList ≠ []} (h : Next t cs r) :
  expect t cs ht = .ok ⟨r, h.length_lt ht⟩
  := by
  rw [expect, accept?_of_next h]

theorem nextName_of_name? {cs n : List Char} {r : Tail cs} (h : name? cs = some (n, r)) :
  NextName n cs r.val
  := by
  unfold name? at h
  split at h
  · cases h
  · rename_i he
    cases h
    constructor
    · simpa using he
    · rfl

theorem NextName.eq_append {n cs r : List Char} (h : NextName n cs r) :
  Text.trimLeft cs = n ++ r
  := by
  rw [← splitName_append (Text.trimLeft cs), h.2]

theorem NextName.length_le {n cs r : List Char} (h : NextName n cs r) :
  n.length + r.length ≤ cs.length
  := by
  have hl := Text.length_trimLeft_le cs
  rw [h.eq_append, List.length_append] at hl
  apply hl

theorem NextName.length_lt {n cs r : List Char} (hn : n ≠ []) (h : NextName n cs r) :
  r.length < cs.length
  := by
  have hl := h.length_le
  have hp := List.length_pos_iff.2 hn
  omega

theorem NextName.name?_eq {n cs r : List Char} (h : NextName n cs r) :
  name? cs = some (n, ⟨r, Nat.le_trans (Nat.le_add_left _ _) h.length_le⟩)
  := by
  unfold name?
  rw [if_neg (by simpa using h.1)]
  simp [h.2]

/-- The characters of a name that is read are name characters. -/
theorem NextName.isNameChar_of_mem {n cs r : List Char} (h : NextName n cs r) {c : Char}
    (hc : c ∈ n) :
  isNameChar c
  := by
  have hs := h.2
  unfold splitName at hs
  dsimp only at hs
  split at hs
  · cases hs
    exact List.mem_takeWhile_imp (List.dropLast_subset _ hc)
  · cases hs
    exact List.mem_takeWhile_imp hc

/-- A name is empty only before a point and an angle bracket. -/
theorem NextName.ne_nil {n cs r : List Char} (h : NextName n cs r) (hp : ¬ Ahead ".<" r) :
  n ≠ []
  := by
  rintro rfl
  apply hp
  apply isSome_accept?_iff.1 (accept?_of_name?_nil h.name?_eq)

/-! ### Phrases -/

/-- What a part of the text of a type stands for. -/
inductive Phrase where
  | union (t : TypeExpr)
  | alternatives (ts : List TypeExpr)
  | marked (t : TypeExpr)
  | suffixes (t t' : TypeExpr)
  | primary (t : TypeExpr)
  | named (t : TypeExpr)
  | arguments (ts : List TypeExpr)
  | params (ts : List TypeExpr)
  | moreParams (ts : List TypeExpr)
  | result (t : Option TypeExpr)
  | fields (fs : List (String × TypeExpr))

/-- `Reads cs p r`: the text `cs` starts with the phrase `p` and goes on with `r`. -/
inductive Reads : List Char → Phrase → List Char → Prop where
  | union {cs r r' : List Char} {t : TypeExpr} {ts : List TypeExpr} :
      Reads cs (.marked t) r → Reads r (.alternatives ts) r' →
      Reads cs (.union (TypeExpr.alternatives t ts)) r'
  | bar {cs r r' r'' : List Char} {t : TypeExpr} {ts : List TypeExpr} :
      Next "|" cs r → Reads r (.marked t) r' → Reads r' (.alternatives ts) r'' →
      Reads cs (.alternatives (t :: ts)) r''
  | noBar {cs : List Char} :
      ¬ Ahead "|" cs → Reads cs (.alternatives []) cs
  | nullable {cs r r' : List Char} {t : TypeExpr} :
      Next "?" cs r → Reads r (.marked t) r' → Reads cs (.marked (nullable t)) r'
  | nonNullable {cs r r' : List Char} {t : TypeExpr} :
      Next "!" cs r → Reads r (.marked t) r' → Reads cs (.marked (nonNullable t)) r'
  | rest {cs r r' : List Char} {t : TypeExpr} :
      Next "..." cs r → Reads r (.marked t) r' → Reads cs (.marked (TypeExpr.rest t)) r'
  | unmarked {cs r r' : List Char} {t t' : TypeExpr} :
      ¬ Ahead "?" cs → ¬ Ahead "!" cs → ¬ Ahead "..." cs →
      Reads cs (.primary t) r → Reads r (.suffixes t t') r' → Reads cs (.marked t') r'
  | array {cs r r' : List Char} {t t' : TypeExpr} :
      Next "[]" cs r → Reads r (.suffixes (application (name "Array") [t]) t') r' →
      Reads cs (.suffixes t t') r'
  | optional {cs r r' : List Char} {t t' : TypeExpr} :
      Next "=" cs r → Reads r (.suffixes (optional t) t') r' → Reads cs (.suffixes t t') r'
  | noSuffix {cs : List Char} {t : TypeExpr} :
      ¬ Ahead "[]" cs → ¬ Ahead "=" cs → Reads cs (.suffixes t t) cs
  | all {cs r : List Char} :
      Next "*" cs r → Reads cs (.primary all) r
  | group {cs r r' r'' : List Char} {t : TypeExpr} :
      Next "(" cs r → Reads r (.union t) r' → Next ")" r' r'' →
      Reads cs (.primary (parenthesized t)) r''
  | emptyRecord {cs r r' : List Char} :
      Next "\x7b" cs r → Next "\x7d" r r' → Reads cs (.primary (record [])) r'
  | record {cs r r' : List Char} {fs : List (String × TypeExpr)} :
      Next "\x7b" cs r → ¬ Ahead "\x7d" r → Reads r (.fields fs) r' →
      Reads cs (.primary (record fs)) r'
  | named {cs n r r' : List Char} {t : TypeExpr} :
      NextName n cs r → Reads cs (.named t) r' → Reads cs (.primary t) r'
  | null {cs r : List Char} :
      NextName "null".toList cs r → Reads cs (.named null) r
  | function {cs r r' r'' : List Char} {ts : List TypeExpr} {t : Option TypeExpr} :
      NextName "function".toList cs r → Reads r (.params ts) r' → Reads r' (.result t) r'' →
      Reads cs (.named (function ts t)) r''
  | application {cs n r r' r'' : List Char} {ts : List TypeExpr} :
      NextName n cs r → n ≠ "null".toList → Next ".<" r r' ∨ Next "<" r r' →
      Reads r' (.arguments ts) r'' →
      Reads cs (.named (application (name (String.ofList n)) ts)) r''
  | name {cs n r : List Char} :
      NextName n cs r → n ≠ "null".toList → ¬ (n = "function".toList ∧ Ahead "(" r) →
      ¬ Ahead ".<" r → ¬ Ahead "<" r → Reads cs (.named (name (String.ofList n))) r
  | argument {cs r r' r'' : List Char} {t : TypeExpr} {ts : List TypeExpr} :
      Reads cs (.union t) r → Next "," r r' → Reads r' (.arguments ts) r'' →
      Reads cs (.arguments (t :: ts)) r''
  | lastArgument {cs r r' : List Char} {t : TypeExpr} :
      Reads cs (.union t) r → Next ">" r r' → Reads cs (.arguments [t]) r'
  | noParams {cs r r' : List Char} :
      Next "(" cs r → Next ")" r r' → Reads cs (.params []) r'
  | params {cs r r' : List Char} {ts : List TypeExpr} :
      Next "(" cs r → ¬ Ahead ")" r → Reads r (.moreParams ts) r' → Reads cs (.params ts) r'
  | param {cs r r' r'' : List Char} {t : TypeExpr} {ts : List TypeExpr} :
      Reads cs (.union t) r → Next "," r r' → Reads r' (.moreParams ts) r'' →
      Reads cs (.moreParams (t :: ts)) r''
  | lastParam {cs r r' : List Char} {t : TypeExpr} :
      Reads cs (.union t) r → Next ")" r r' → Reads cs (.moreParams [t]) r'
  | result {cs r r' : List Char} {t : TypeExpr} :
      Next ":" cs r → Reads r (.union t) r' → Reads cs (.result (some t)) r'
  | noResult {cs : List Char} :
      ¬ Ahead ":" cs → Reads cs (.result none) cs
  | field {cs k r r' r'' q q' : List Char} {t : TypeExpr} {fs : List (String × TypeExpr)} :
      NextName k cs r → Next ":" r r' → Reads r' (.union t) r'' → Next "," r'' q →
      Reads q (.fields fs) q' → Reads cs (.fields ((String.ofList k, t) :: fs)) q'
  | lastField {cs k r r' r'' q : List Char} {t : TypeExpr} :
      NextName k cs r → Next ":" r r' → Reads r' (.union t) r'' → Next "\x7d" r'' q →
      Reads cs (.fields [(String.ofList k, t)]) q

/-! ### The rules behind a reading -/

theorem reads_suffixes (t : TypeExpr) (cs : List Char) :
  Reads cs (.suffixes t (suffixes t cs).1) (suffixes t cs).2.val
  := by
  fun_induction suffixes t cs with
  | case1 t cs r hr ha t' r' hr' he ih =>
    rw [he] at ih
    apply Reads.array (next_of_accept? ha) ih
  | case2 t cs hn r hr ha t' r' hr' he ih =>
    rw [he] at ih
    apply Reads.optional (next_of_accept? ha) ih
  | case3 t cs hn ho =>
    apply Reads.noSuffix (accept?_eq_none_iff.1 hn) (accept?_eq_none_iff.1 ho)

theorem nextName_of_readNamed {cs : List Char} {t : TypeExpr} {r : Rest cs}
    (h : readNamed cs = .ok (t, r)) :
  ∃ n q, NextName n cs q
  := by
  rw [readNamed] at h
  split at h
  · cases h
  · rename_i n q hq hn
    use n, q
    apply nextName_of_name? hn

mutual

theorem reads_of_readUnion {cs : List Char} {t : TypeExpr} {r : Rest cs}
    (h : readUnion cs = .ok (t, r)) :
  Reads cs (.union t) r.val
  := by
  rw [readUnion] at h
  obtain ⟨⟨t₁, r₁, h₁⟩, e₁, h⟩ := exists_of_bind_eq_ok h
  obtain ⟨⟨ts, r₂, h₂⟩, e₂, h⟩ := exists_of_bind_eq_ok h
  cases h
  apply Reads.union (reads_of_readMarked e₁) (reads_of_readAlternatives e₂)
termination_by (cs.length, 3)

theorem reads_of_readAlternatives {cs : List Char} {ts : List TypeExpr} {r : Tail cs}
    (h : readAlternatives cs = .ok (ts, r)) :
  Reads cs (.alternatives ts) r.val
  := by
  rw [readAlternatives] at h
  split at h
  · rename_i r₀ h₀ ha
    obtain ⟨⟨t, r₁, h₁⟩, e₁, h⟩ := exists_of_bind_eq_ok h
    obtain ⟨⟨ts, r₂, h₂⟩, e₂, h⟩ := exists_of_bind_eq_ok h
    cases h
    apply Reads.bar (next_of_accept? ha) (reads_of_readMarked e₁) (reads_of_readAlternatives e₂)
  · rename_i ha
    cases h
    apply Reads.noBar (accept?_eq_none_iff.1 ha)
termination_by (cs.length, 0)

theorem reads_of_readMarked {cs : List Char} {t : TypeExpr} {r : Rest cs}
    (h : readMarked cs = .ok (t, r)) :
  Reads cs (.marked t) r.val
  := by
  rw [readMarked] at h
  split at h
  · rename_i r₀ h₀ ha
    obtain ⟨⟨t, r₁, h₁⟩, e₁, h⟩ := exists_of_bind_eq_ok h
    cases h
    apply Reads.nullable (next_of_accept? ha) (reads_of_readMarked e₁)
  rename_i hq
  split at h
  · rename_i r₀ h₀ ha
    obtain ⟨⟨t, r₁, h₁⟩, e₁, h⟩ := exists_of_bind_eq_ok h
    cases h
    apply Reads.nonNullable (next_of_accept? ha) (reads_of_readMarked e₁)
  rename_i hn
  split at h
  · rename_i r₀ h₀ ha
    obtain ⟨⟨t, r₁, h₁⟩, e₁, h⟩ := exists_of_bind_eq_ok h
    cases h
    apply Reads.rest (next_of_accept? ha) (reads_of_readMarked e₁)
  rename_i hr
  obtain ⟨⟨t, r₁, h₁⟩, e₁, h⟩ := exists_of_bind_eq_ok h
  cases h
  apply Reads.unmarked (accept?_eq_none_iff.1 hq) (accept?_eq_none_iff.1 hn)
    (accept?_eq_none_iff.1 hr) (reads_of_readPrimary e₁) (reads_suffixes t r₁)
termination_by (cs.length, 2)

theorem reads_of_readPrimary {cs : List Char} {t : TypeExpr} {r : Rest cs}
    (h : readPrimary cs = .ok (t, r)) :
  Reads cs (.primary t) r.val
  := by
  rw [readPrimary] at h
  split at h
  · rename_i r₀ ha
    cases h
    apply Reads.all (next_of_accept? ha)
  split at h
  · rename_i r₀ h₀ ha
    obtain ⟨⟨t, r₁, h₁⟩, e₁, h⟩ := exists_of_bind_eq_ok h
    obtain ⟨⟨r₂, h₂⟩, e₂, h⟩ := exists_of_bind_eq_ok h
    cases h
    apply Reads.group (next_of_accept? ha) (reads_of_readUnion e₁) (next_of_expect e₂)
  split at h
  · rename_i r₀ h₀ ha
    split at h
    · rename_i r₁ h₁ hb
      cases h
      apply Reads.emptyRecord (next_of_accept? ha) (next_of_accept? hb)
    · rename_i hb
      obtain ⟨⟨fs, r₁, h₁⟩, e₁, h⟩ := exists_of_bind_eq_ok h
      cases h
      apply Reads.record (next_of_accept? ha) (accept?_eq_none_iff.1 hb) (reads_of_readFields e₁)
  obtain ⟨n, q, hn⟩ := nextName_of_readNamed h
  apply Reads.named hn (reads_of_readNamed h)
termination_by (cs.length, 1)

theorem reads_of_readNamed {cs : List Char} {t : TypeExpr} {r : Rest cs}
    (h : readNamed cs = .ok (t, r)) :
  Reads cs (.named t) r.val
  := by
  rw [readNamed] at h
  split at h
  · cases h
  rename_i n r₀ h₀ hname
  have hn := nextName_of_name? hname
  have hl : n.length + r₀.length ≤ cs.length := length_of_name? hname
  split at h
  · rename_i hnull
    cases h
    rw [hnull] at hn
    apply Reads.null hn
  rename_i hnull
  split at h
  · rename_i hf
    rw [hf.1] at hn
    have hlen : r₀.length < cs.length := by
      have hpos : 0 < n.length := by
        rw [hf.1]
        decide
      omega
    obtain ⟨⟨ts, r₁, h₁⟩, e₁, h⟩ := exists_of_bind_eq_ok h
    obtain ⟨⟨t, r₂, h₂⟩, e₂, h⟩ := exists_of_bind_eq_ok h
    cases h
    apply Reads.function hn (reads_of_readParams e₁) (reads_of_readResult e₂)
  rename_i hf
  split at h
  · rename_i r₁ h₁ ha
    obtain ⟨⟨ts, r₂, h₂⟩, e₂, h⟩ := exists_of_bind_eq_ok h
    cases h
    apply Reads.application hn hnull (.inl (next_of_accept? ha)) (reads_of_readArguments e₂)
  rename_i hp
  split at h
  · rename_i r₁ h₁ ha
    obtain ⟨⟨ts, r₂, h₂⟩, e₂, h⟩ := exists_of_bind_eq_ok h
    cases h
    apply Reads.application hn hnull (.inr (next_of_accept? ha)) (reads_of_readArguments e₂)
  · rename_i ha
    cases h
    apply Reads.name hn hnull _ (accept?_eq_none_iff.1 hp) (accept?_eq_none_iff.1 ha)
    rw [isSome_accept?_iff] at hf
    apply hf
termination_by (cs.length, 0)

theorem reads_of_readArguments {cs : List Char} {ts : List TypeExpr} {r : Rest cs}
    (h : readArguments cs = .ok (ts, r)) :
  Reads cs (.arguments ts) r.val
  := by
  rw [readArguments] at h
  obtain ⟨⟨t, r₁, h₁⟩, e₁, h⟩ := exists_of_bind_eq_ok h
  dsimp only at h
  split at h
  · rename_i r₂ h₂ ha
    obtain ⟨⟨ts, r₃, h₃⟩, e₃, h⟩ := exists_of_bind_eq_ok h
    cases h
    apply Reads.argument (reads_of_readUnion e₁) (next_of_accept? ha) (reads_of_readArguments e₃)
  · obtain ⟨⟨r₂, h₂⟩, e₂, h⟩ := exists_of_bind_eq_ok h
    cases h
    apply Reads.lastArgument (reads_of_readUnion e₁) (next_of_expect e₂)
termination_by (cs.length, 4)

theorem reads_of_readParams {cs : List Char} {ts : List TypeExpr} {r : Tail cs}
    (h : readParams cs = .ok (ts, r)) :
  Reads cs (.params ts) r.val
  := by
  rw [readParams] at h
  obtain ⟨⟨r₁, h₁⟩, e₁, h⟩ := exists_of_bind_eq_ok h
  dsimp only at h
  split at h
  · rename_i r₂ h₂ ha
    cases h
    apply Reads.noParams (next_of_expect e₁) (next_of_accept? ha)
  · rename_i ha
    obtain ⟨⟨ts, r₂, h₂⟩, e₂, h⟩ := exists_of_bind_eq_ok h
    cases h
    apply Reads.params (next_of_expect e₁) (accept?_eq_none_iff.1 ha) (reads_of_readMoreParams e₂)
termination_by (cs.length, 5)

theorem reads_of_readMoreParams {cs : List Char} {ts : List TypeExpr} {r : Rest cs}
    (h : readMoreParams cs = .ok (ts, r)) :
  Reads cs (.moreParams ts) r.val
  := by
  rw [readMoreParams] at h
  obtain ⟨⟨t, r₁, h₁⟩, e₁, h⟩ := exists_of_bind_eq_ok h
  dsimp only at h
  split at h
  · rename_i r₂ h₂ ha
    cases h
    apply Reads.lastParam (reads_of_readUnion e₁) (next_of_accept? ha)
  · obtain ⟨⟨r₂, h₂⟩, e₂, h⟩ := exists_of_bind_eq_ok h
    obtain ⟨⟨ts, r₃, h₃⟩, e₃, h⟩ := exists_of_bind_eq_ok h
    cases h
    apply Reads.param (reads_of_readUnion e₁) (next_of_expect e₂) (reads_of_readMoreParams e₃)
termination_by (cs.length, 4)

theorem reads_of_readResult {cs : List Char} {t : Option TypeExpr} {r : Tail cs}
    (h : readResult cs = .ok (t, r)) :
  Reads cs (.result t) r.val
  := by
  rw [readResult] at h
  split at h
  · rename_i r₁ h₁ ha
    obtain ⟨⟨t, r₂, h₂⟩, e₂, h⟩ := exists_of_bind_eq_ok h
    cases h
    apply Reads.result (next_of_accept? ha) (reads_of_readUnion e₂)
  · rename_i ha
    cases h
    apply Reads.noResult (accept?_eq_none_iff.1 ha)
termination_by (cs.length, 4)

theorem reads_of_readFields {cs : List Char} {fs : List (String × TypeExpr)} {r : Rest cs}
    (h : readFields cs = .ok (fs, r)) :
  Reads cs (.fields fs) r.val
  := by
  rw [readFields] at h
  split at h
  · cases h
  rename_i k r₀ h₀ hk
  obtain ⟨⟨r₁, h₁⟩, e₁, h⟩ := exists_of_bind_eq_ok h
  obtain ⟨⟨t, r₂, h₂⟩, e₂, h⟩ := exists_of_bind_eq_ok h
  dsimp only at h
  split at h
  · rename_i r₃ h₃ ha
    cases h
    apply Reads.lastField (nextName_of_name? hk) (next_of_expect e₁) (reads_of_readUnion e₂)
      (next_of_accept? ha)
  · obtain ⟨⟨r₃, h₃⟩, e₃, h⟩ := exists_of_bind_eq_ok h
    obtain ⟨⟨fs, r₄, h₄⟩, e₄, h⟩ := exists_of_bind_eq_ok h
    cases h
    apply Reads.field (nextName_of_name? hk) (next_of_expect e₁) (reads_of_readUnion e₂)
      (next_of_expect e₃) (reads_of_readFields e₄)
termination_by (cs.length, 4)

end

/-! ### The readers follow the rules -/

/-- The reader of a phrase reads it off the text `cs` and leaves `r`. -/
def Phrase.IsRead (cs r : List Char) : Phrase → Prop
  | .union t => ∃ hr, readUnion cs = .ok (t, ⟨r, hr⟩)
  | .alternatives ts => ∃ hr, readAlternatives cs = .ok (ts, ⟨r, hr⟩)
  | .marked t => ∃ hr, readMarked cs = .ok (t, ⟨r, hr⟩)
  | .suffixes t t' => ∃ hr, TypeExpr.suffixes t cs = (t', ⟨r, hr⟩)
  | .primary t => ∃ hr, readPrimary cs = .ok (t, ⟨r, hr⟩)
  | .named t => ∃ hr, readNamed cs = .ok (t, ⟨r, hr⟩)
  | .arguments ts => ∃ hr, readArguments cs = .ok (ts, ⟨r, hr⟩)
  | .params ts => ∃ hr, readParams cs = .ok (ts, ⟨r, hr⟩)
  | .moreParams ts => ∃ hr, readMoreParams cs = .ok (ts, ⟨r, hr⟩)
  | .result t => ∃ hr, readResult cs = .ok (t, ⟨r, hr⟩)
  | .fields fs => ∃ hr, readFields cs = .ok (fs, ⟨r, hr⟩)

/-- Two tokens that start differently are not both next. -/
theorem Next.not_ahead {t u : String} {cs r : List Char} (h : Next t cs r)
    (hne : ¬ u.toList <+: t.toList ++ r := by simp) :
  ¬ Ahead u cs
  := by
  rintro ⟨q, hq⟩
  apply hne
  rw [Next, h] at hq
  use q
  rw [hq]

/-- Where a name is next, no token is that starts with another character. -/
theorem NextName.not_ahead {n cs r : List Char} (h : NextName n cs r) {t : String}
    (ht : t.toList.head?.any (fun c => !isNameChar c)) :
  ¬ Ahead t cs
  := by
  obtain ⟨c, s, ht, hc⟩ := exists_of_any_head? ht
  rintro ⟨q, hq⟩
  apply h.1
  rw [hq, ht, List.cons_append, List.takeWhile_cons_of_neg (by simpa using hc)]

theorem Reads.ahead_of_params {cs r : List Char} {ts : List TypeExpr}
    (h : Reads cs (.params ts) r) :
  Ahead "(" cs
  := by
  cases h with
  | noParams h _ => exact ⟨_, h⟩
  | params h _ _ => exact ⟨_, h⟩

theorem Reads.isRead {cs r : List Char} {p : Phrase} (h : Reads cs p r) :
  p.IsRead cs r
  := by
  induction h with
  | union _ _ ih₁ ih₂ =>
    obtain ⟨h₁, e₁⟩ := ih₁
    obtain ⟨h₂, e₂⟩ := ih₂
    use by omega
    rw [readUnion]
    simp only [e₁, e₂, ok_bind]
    rfl
  | bar h _ _ ih₁ ih₂ =>
    obtain ⟨h₁, e₁⟩ := ih₁
    obtain ⟨h₂, e₂⟩ := ih₂
    have h₀ := h.length_lt (by decide)
    use by omega
    rw [readAlternatives]
    simp only [accept?_of_next h, e₁, e₂, ok_bind]
    rfl
  | noBar h =>
    use Nat.le_refl _
    rw [readAlternatives]
    simp only [accept?_eq_none_iff.2 h]
    rfl
  | nullable h _ ih =>
    obtain ⟨h₁, e₁⟩ := ih
    have h₀ := h.length_lt (by decide)
    use by omega
    rw [readMarked]
    simp only [accept?_of_next h, e₁, ok_bind]
    rfl
  | nonNullable h _ ih =>
    obtain ⟨h₁, e₁⟩ := ih
    have h₀ := h.length_lt (by decide)
    use by omega
    rw [readMarked]
    simp only [accept?_eq_none_iff.2 (h.not_ahead (u := "?")), accept?_of_next h, e₁,
      ok_bind]
    rfl
  | rest h _ ih =>
    obtain ⟨h₁, e₁⟩ := ih
    have h₀ := h.length_lt (by decide)
    use by omega
    rw [readMarked]
    simp only [accept?_eq_none_iff.2 (h.not_ahead (u := "?")),
      accept?_eq_none_iff.2 (h.not_ahead (u := "!")), accept?_of_next h, e₁, ok_bind]
    rfl
  | unmarked hq hn hr _ _ ih₁ ih₂ =>
    obtain ⟨h₁, e₁⟩ := ih₁
    obtain ⟨h₂, e₂⟩ := ih₂
    use by omega
    rw [readMarked]
    simp only [accept?_eq_none_iff.2 hq, accept?_eq_none_iff.2 hn, accept?_eq_none_iff.2 hr, e₁,
      e₂, ok_bind]
    rfl
  | array h _ ih =>
    obtain ⟨h₁, e₁⟩ := ih
    have h₀ := h.length_lt (by decide)
    use by omega
    rw [TypeExpr.suffixes]
    simp only [accept?_of_next h, e₁]
  | optional h _ ih =>
    obtain ⟨h₁, e₁⟩ := ih
    have h₀ := h.length_lt (by decide)
    use by omega
    rw [TypeExpr.suffixes]
    simp only [accept?_eq_none_iff.2 (h.not_ahead (u := "[]")), accept?_of_next h, e₁]
  | noSuffix ha ho =>
    use Nat.le_refl _
    rw [TypeExpr.suffixes]
    simp only [accept?_eq_none_iff.2 ha, accept?_eq_none_iff.2 ho]
    rfl
  | all h =>
    use h.length_lt (by decide)
    rw [readPrimary]
    simp only [accept?_of_next h]
    rfl
  | group h _ h' ih =>
    obtain ⟨h₁, e₁⟩ := ih
    have h₀ := h.length_lt (by decide)
    have h₂ := h'.length_lt (by decide)
    use by omega
    rw [readPrimary]
    simp only [accept?_eq_none_iff.2 (h.not_ahead (u := "*")), accept?_of_next h, e₁,
      expect_of_next h', ok_bind]
    rfl
  | emptyRecord h h' =>
    have h₀ := h.length_lt (by decide)
    have h₁ := h'.length_lt (by decide)
    use by omega
    rw [readPrimary]
    simp only [accept?_eq_none_iff.2 (h.not_ahead (u := "*")),
      accept?_eq_none_iff.2 (h.not_ahead (u := "(")), accept?_of_next h,
      accept?_of_next h']
    rfl
  | record h hn _ ih =>
    obtain ⟨h₁, e₁⟩ := ih
    have h₀ := h.length_lt (by decide)
    use by omega
    rw [readPrimary]
    simp only [accept?_eq_none_iff.2 (h.not_ahead (u := "*")),
      accept?_eq_none_iff.2 (h.not_ahead (u := "(")), accept?_of_next h,
      accept?_eq_none_iff.2 hn, e₁, ok_bind]
    rfl
  | named h _ ih =>
    obtain ⟨h₁, e₁⟩ := ih
    use h₁
    rw [readPrimary]
    simp only [accept?_eq_none_iff.2 (h.not_ahead (t := "*") rfl),
      accept?_eq_none_iff.2 (h.not_ahead (t := "(") rfl),
      accept?_eq_none_iff.2 (h.not_ahead (t := "\x7b") rfl), e₁]
  | null h =>
    use h.length_lt (by decide)
    rw [readNamed]
    split
    · rename_i hn
      rw [h.name?_eq] at hn
      cases hn
    · rename_i hn
      rw [h.name?_eq] at hn
      cases hn
      rw [dif_pos rfl]
      rfl
  | function h hp _ ih₁ ih₂ =>
    obtain ⟨h₁, e₁⟩ := ih₁
    obtain ⟨h₂, e₂⟩ := ih₂
    have h₀ := h.length_lt (by decide)
    use by omega
    rw [readNamed]
    split
    · rename_i hn
      rw [h.name?_eq] at hn
      cases hn
    · rename_i hn
      rw [h.name?_eq] at hn
      cases hn
      rw [dif_neg (by decide), dif_pos ⟨rfl, isSome_accept?_iff.2 hp.ahead_of_params⟩]
      simp only [e₁, e₂, ok_bind]
      rfl
  | @application cs n r r' r'' ts h hnull ha _ ih =>
    obtain ⟨h₁, e₁⟩ := ih
    have h₀ := h.length_le
    have hlt : r'.length < r.length :=
      ha.elim (Next.length_lt (by decide)) (Next.length_lt (by decide))
    use by omega
    rw [readNamed]
    split
    · rename_i hn
      rw [h.name?_eq] at hn
      cases hn
    · rename_i hn
      rw [h.name?_eq] at hn
      cases hn
      have hf : ¬ (n = "function".toList ∧ (accept? "(" r).isSome) := by
        rw [isSome_accept?_iff]
        rintro ⟨-, hp⟩
        rcases ha with ha | ha
        · apply ha.not_ahead (u := "(") _ hp
          simp
        · apply ha.not_ahead (u := "(") _ hp
          simp
      rw [dif_neg hnull, dif_neg hf]
      split
      · rename_i q hq hacc
        rcases ha with ha | ha
        · rw [accept?_of_next ha] at hacc
          cases hacc
          simp only [e₁, ok_bind]
          rfl
        · rw [accept?_eq_none_iff.2 ha.not_ahead] at hacc
          cases hacc
      · rename_i hacc
        rcases ha with ha | ha
        · rw [accept?_of_next ha] at hacc
          cases hacc
        · simp only [accept?_of_next ha, e₁, ok_bind]
          rfl
  | @name cs n r h hnull hf hp ha =>
    use h.length_lt (h.ne_nil hp)
    rw [readNamed]
    split
    · rename_i hn
      rw [h.name?_eq] at hn
      cases hn
    · rename_i hn
      rw [h.name?_eq] at hn
      cases hn
      have hf' : ¬ (n = "function".toList ∧ (accept? "(" r).isSome) := by
        rw [isSome_accept?_iff]
        apply hf
      rw [dif_neg hnull, dif_neg hf']
      split
      · rename_i q hq hacc
        rw [accept?_eq_none_iff.2 hp] at hacc
        cases hacc
      · simp only [accept?_eq_none_iff.2 ha]
        rfl
  | argument _ h _ ih₁ ih₂ =>
    obtain ⟨h₁, e₁⟩ := ih₁
    obtain ⟨h₂, e₂⟩ := ih₂
    have h₀ := h.length_lt (by decide)
    use by omega
    rw [readArguments]
    simp only [e₁, accept?_of_next h, e₂, ok_bind]
    rfl
  | lastArgument _ h ih =>
    obtain ⟨h₁, e₁⟩ := ih
    have h₀ := h.length_lt (by decide)
    use by omega
    rw [readArguments]
    simp only [e₁, accept?_eq_none_iff.2 (h.not_ahead (u := ",")), expect_of_next h,
      ok_bind]
    rfl
  | noParams h h' =>
    have h₀ := h.length_lt (by decide)
    have h₁ := h'.length_lt (by decide)
    use by omega
    rw [readParams]
    simp only [expect_of_next h, accept?_of_next h', ok_bind]
    rfl
  | params h hn _ ih =>
    obtain ⟨h₁, e₁⟩ := ih
    have h₀ := h.length_lt (by decide)
    use by omega
    rw [readParams]
    simp only [expect_of_next h, accept?_eq_none_iff.2 hn, e₁, ok_bind]
    rfl
  | param _ h _ ih₁ ih₂ =>
    obtain ⟨h₁, e₁⟩ := ih₁
    obtain ⟨h₂, e₂⟩ := ih₂
    have h₀ := h.length_lt (by decide)
    use by omega
    rw [readMoreParams]
    simp only [e₁, accept?_eq_none_iff.2 (h.not_ahead (u := ")")), expect_of_next h, e₂,
      ok_bind]
    rfl
  | lastParam _ h ih =>
    obtain ⟨h₁, e₁⟩ := ih
    have h₀ := h.length_lt (by decide)
    use by omega
    rw [readMoreParams]
    simp only [e₁, accept?_of_next h, ok_bind]
    rfl
  | result h _ ih =>
    obtain ⟨h₁, e₁⟩ := ih
    have h₀ := h.length_lt (by decide)
    use by omega
    rw [readResult]
    simp only [accept?_of_next h, e₁, ok_bind]
    rfl
  | noResult h =>
    use Nat.le_refl _
    rw [readResult]
    simp only [accept?_eq_none_iff.2 h]
    rfl
  | field hk hc _ h _ ih₁ ih₂ =>
    obtain ⟨h₁, e₁⟩ := ih₁
    obtain ⟨h₂, e₂⟩ := ih₂
    have hk' := hk.length_le
    have hc' := hc.length_lt (by decide)
    have h₀ := h.length_lt (by decide)
    use by omega
    rw [readFields]
    simp only [hk.name?_eq, expect_of_next hc, e₁,
      accept?_eq_none_iff.2 (h.not_ahead (u := "\x7d")), expect_of_next h, e₂, ok_bind]
    rfl
  | lastField hk hc _ h ih =>
    obtain ⟨h₁, e₁⟩ := ih
    have hk' := hk.length_le
    have hc' := hc.length_lt (by decide)
    have h₀ := h.length_lt (by decide)
    use by omega
    rw [readFields]
    simp only [hk.name?_eq, expect_of_next hc, e₁, accept?_of_next h,
      ok_bind]
    rfl

/-! ### Whole texts -/

/-- A text is a type exactly if a type stands at its start and only blanks follow. -/
theorem read_eq_ok_iff {cs : List Char} {t : TypeExpr} :
  read cs = .ok t ↔ ∃ r, Reads cs (.union t) r ∧ Text.trimLeft r = []
  := by
  unfold read
  constructor
  · intro h
    obtain ⟨⟨t', r⟩, e, h⟩ := exists_of_bind_eq_ok h
    dsimp only at h
    split at h
    · rename_i hr
      cases h
      exact ⟨r.val, reads_of_readUnion e, hr⟩
    · cases h
  · rintro ⟨r, h, hr⟩
    obtain ⟨h₁, e₁⟩ := h.isRead
    simp only [e₁, ok_bind, hr]
    rfl

/-- A string is a type exactly if a type stands at its start and only blanks follow. -/
theorem parse_eq_ok_iff {s : String} {t : TypeExpr} :
  parse s = .ok t ↔ ∃ r, Reads s.toList (.union t) r ∧ Text.trimLeft r = []
  := by
  rw [← read_eq_ok_iff, parse]
  cases read s.toList with
  | error f => simp [Except.mapError]
  | ok t' => simp [Except.mapError]

end TypeExpr

end DocPages

import DocPages.Proofs.Doclet.Balance
import DocPages.Proofs.TypeExpr.Source

/-!
# Text between braces

A text may start, after blanks, with a balanced text in braces.  There is at most one such text, and
`splitBraced` finds it if there is one.  A type in braces is always found, since its own braces are
balanced.
-/

namespace DocPages.Doclet

/-! ### What is passed over -/

/-- In a text `depth` more braces are closed than opened, and no part of it from the start on closes
more than that. -/
structure Closes (depth : Nat) (cs : List Char) : Prop where
  count_eq : cs.count '\x7d' = depth + cs.count '\x7b'
  count_le : ∀ ds, ds <+: cs → ds.count '\x7d' ≤ depth + ds.count '\x7b'

theorem closes_zero_iff {cs : List Char} :
  Closes 0 cs ↔ Balanced cs
  := by
  constructor
  · intro h
    exact ⟨by simpa using h.count_eq, by simpa using h.count_le⟩
  · intro h
    exact ⟨by simpa using h.count_eq, by simpa using h.count_le⟩

/-- One more character in front of a text changes what is left to close. -/
theorem Closes.cons {c : Char} {depth depth' : Nat} {cs : List Char}
    (hd : depth' + [c].count '\x7d' = depth + [c].count '\x7b') (h : Closes depth' cs) :
  Closes depth (c :: cs)
  := by
  have hcons : ∀ (x : Char) (ds : List Char), (c :: ds).count x = [c].count x + ds.count x := by
    intro x ds
    rw [← List.singleton_append, List.count_append]
  constructor
  · have heq := h.count_eq
    rw [hcons _ cs, hcons _ cs]
    omega
  · intro ds hds
    rcases List.prefix_cons_iff.1 hds with rfl | ⟨es, rfl, hes⟩
    · apply Nat.zero_le
    · have hle := h.count_le es hes
      rw [hcons _ es, hcons _ es]
      omega

/-- The brace that is found is the first that closes more than was opened. -/
theorem closes_of_closing {depth : Nat} {cs ds r : List Char}
    (h : closing depth cs = some (ds, r)) :
  Closes depth ds ∧ cs = ds ++ '\x7d' :: r
  := by
  induction cs generalizing depth ds with
  | nil => cases h
  | cons c cs ih =>
    -- The character is passed over, and the search goes on at another depth.
    have hpass : ∀ depth', depth' + [c].count '\x7d' = depth + [c].count '\x7b' →
        ((closing depth' cs).map fun p => (c :: p.1, p.2)) = some (ds, r) →
        Closes depth ds ∧ c :: cs = ds ++ '\x7d' :: r := by
      intro depth' hd hmap
      obtain ⟨⟨ds', r'⟩, hds, he⟩ := Option.map_eq_some_iff.1 hmap
      cases he
      obtain ⟨hcloses, rfl⟩ := ih hds
      exact ⟨hcloses.cons hd, rfl⟩
    rw [closing.eq_def] at h
    dsimp only at h
    split at h
    · rename_i hopen
      apply hpass (depth + 1) _ h
      subst hopen
      rfl
    · rename_i hopen
      split at h
      · rename_i hclose
        subst hclose
        cases depth with
        | zero =>
          cases h
          exact ⟨closes_zero_iff.2 (Balanced.of_not_mem List.not_mem_nil List.not_mem_nil), rfl⟩
        | succ depth => apply hpass depth rfl h
      · rename_i hclose
        apply hpass depth _ h
        rw [List.count_eq_zero_of_not_mem (by simpa using Ne.symm hclose),
          List.count_eq_zero_of_not_mem (by simpa using Ne.symm hopen)]

/-! ### Text in braces at the start -/

/-- After blanks, a text starts with the balanced text `b` in braces and goes on with `r`. -/
structure StartsBraced (cs b r : List Char) : Prop where
  balanced : Balanced b
  eq : Text.trimLeft cs = '\x7b' :: b ++ '\x7d' :: r

variable {cs b r : List Char}

theorem splitBraced_eq_some_iff :
  splitBraced cs = .ok (some b, r) ↔ StartsBraced cs b r
  := by
  constructor
  · intro h
    rw [splitBraced] at h
    split at h
    · rename_i q hq
      split at h
      · rename_i inner rest hclosing
        cases h
        obtain ⟨hcloses, rfl⟩ := closes_of_closing hclosing
        exact ⟨closes_zero_iff.1 hcloses, hq⟩
      · cases h
    · cases h
  · intro h
    apply h.balanced.splitBraced_eq h.eq

theorem splitBraced_eq_none_iff :
  splitBraced cs = .ok (none, r) ↔ (Text.trimLeft cs).head? ≠ some '\x7b' ∧ r = cs
  := by
  constructor
  · intro h
    rw [splitBraced] at h
    split at h
    · split at h
      · cases h
      · cases h
    · rename_i hbrace
      cases h
      refine ⟨?_, rfl⟩
      intro hhead
      obtain ⟨q, hq⟩ := List.head?_eq_some_iff.1 hhead
      exact hbrace q hq
  · rintro ⟨hhead, rfl⟩
    apply splitBraced_of_head? hhead

theorem eq_of_splitBraced_eq_error {e : List Char} (h : splitBraced cs = .error e) :
  e = Text.trimLeft cs ∧ (Text.trimLeft cs).head? = some '\x7b'
  := by
  rw [splitBraced] at h
  split at h
  · rename_i q hq
    split at h
    · cases h
    · cases h
      rw [hq]
      exact ⟨rfl, rfl⟩
  · cases h

theorem splitBraced_eq_error_iff {e : List Char} :
  splitBraced cs = .error e
    ↔ e = Text.trimLeft cs ∧ (Text.trimLeft cs).head? = some '\x7b' ∧ ¬ ∃ b r, StartsBraced cs b r
  := by
  constructor
  · intro h
    obtain ⟨he, hhead⟩ := eq_of_splitBraced_eq_error h
    refine ⟨he, hhead, ?_⟩
    rintro ⟨b, r, hs⟩
    rw [splitBraced_eq_some_iff.2 hs] at h
    cases h
  · rintro ⟨rfl, hhead, hnone⟩
    -- The other outcomes are excluded by what they say of the text.
    cases h : splitBraced cs with
    | error e => rw [(eq_of_splitBraced_eq_error h).1]
    | ok parts =>
      obtain ⟨_ | b, r⟩ := parts
      · exact absurd hhead (splitBraced_eq_none_iff.1 h).1
      · exact absurd ⟨b, r, splitBraced_eq_some_iff.1 h⟩ hnone

/-- A balanced text in braces stands at the start of a text in one way at most. -/
theorem StartsBraced.unique {b' r' : List Char} (h : StartsBraced cs b r)
    (h' : StartsBraced cs b' r') :
  b = b' ∧ r = r'
  := by
  have heq := (splitBraced_eq_some_iff.2 h).symm.trans (splitBraced_eq_some_iff.2 h')
  cases heq
  exact ⟨rfl, rfl⟩

/-- A text is split after the text in braces that it starts with, if it starts with a brace.  There is
an error if it starts with a brace but with no text in braces.  A type in braces is always found. -/
theorem splitBraced_iff_startsBraced (cs : List Char) :
  (∀ r, splitBraced cs = .ok (none, r) ↔ (Text.trimLeft cs).head? ≠ some '\x7b' ∧ r = cs)
    ∧ (∀ b r, splitBraced cs = .ok (some b, r) ↔ StartsBraced cs b r)
    ∧ (∀ b r b' r', StartsBraced cs b r → StartsBraced cs b' r' → b = b' ∧ r = r')
    ∧ (∀ e, splitBraced cs = .error e
      ↔ e = Text.trimLeft cs ∧ (Text.trimLeft cs).head? = some '\x7b'
        ∧ ¬ ∃ b r, StartsBraced cs b r)
    ∧ ∀ s t, TypeExpr.parse s = .ok t →
      Balanced s.toList
        ∧ ∀ r, splitBraced ('\x7b' :: s.toList ++ '\x7d' :: r) = .ok (some s.toList, r)
  := by
  refine ⟨fun r => splitBraced_eq_none_iff, fun b r => splitBraced_eq_some_iff,
    fun b r b' r' h h' => h.unique h', fun e => splitBraced_eq_error_iff, ?_⟩
  intro s t hparse
  rw [← String.ofList_toList (s := s)] at hparse
  have hbalanced := TypeExpr.balanced_of_parse hparse
  refine ⟨hbalanced, fun r => ?_⟩
  apply hbalanced.splitBraced_eq
  apply Text.trimLeft_cons_of_not (by decide)

theorem splitBraced_iff_startsBraced_callback :
  TypeExpr.parse TypeExpr.callback.source = .ok TypeExpr.callback
    ∧ splitBraced ('\x7b' :: TypeExpr.callback.source.toList ++ '\x7d' :: " onDone".toList)
      = .ok (some TypeExpr.callback.source.toList, " onDone".toList)
  := by
  have hparse := TypeExpr.parse_source TypeExpr.shaped_callback
  obtain ⟨-, -, -, -, htype⟩ := splitBraced_iff_startsBraced []
  exact ⟨hparse, (htype _ _ hparse).2 _⟩

end DocPages.Doclet

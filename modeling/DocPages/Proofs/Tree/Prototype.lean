import DocPages.Proofs.QualifiedName
import DocPages.Proofs.Text.Search
import DocPages.Tree.Naming

/-!
# Prototypes in names

A name is extended by one segment after the other.  If the prototype is marked after each of them,
no prototype is left between two segments, and a segment is set off by a number sign exactly if the
name before it ends in a prototype.  Segments that are added without marking give the same name
only if no prototype comes before one of them.
-/

namespace DocPages

open QualifiedName

/-- No prototype in the name stands between two segments. -/
def Marked (x : String) : Prop :=
  ¬ ".prototype.".toList <:+: x.toList

/-- The last segment of the name is a prototype. -/
def EndsInPrototype (x : String) : Prop :=
  ".prototype".toList <:+ x.toList

instance (x : String) : Decidable (EndsInPrototype x) :=
  inferInstanceAs (Decidable (".prototype".toList <:+ x.toList))

/-- The name with one more segment, with a prototype before it marked. -/
def memberName (x s : String) : String :=
  markPrototype (x ++ "." ++ s)

/-- The name with more segments, without any mark. -/
def keyedName (x : String) (ks : List String) : String :=
  ks.foldl (fun x s => x ++ "." ++ s) x

variable {x s : String}

theorem marked_of_isSegment (hs : IsSegment s.toList) :
  Marked s
  := by
  intro h
  exact hs.not_mem (c := '.') rfl (h.subset (by decide))

/-- A prototype before a new segment can only end at the separator. -/
theorem eq_of_append_cons_eq {us vs before rest : List Char} {c : Char}
    (hu : ¬ ".prototype.".toList <:+: us) (hv : IsSegment vs)
    (he : us ++ c :: vs = before ++ ".prototype.".toList ++ rest) :
  c = '.' ∧ us = before ++ ".prototype".toList ∧ vs = rest
  := by
  have hsep : ".prototype.".toList ++ rest = ".prototype".toList ++ '.' :: rest := rfl
  rw [List.append_assoc, hsep, ← List.append_assoc] at he
  rcases List.append_eq_append_iff.1 he with ⟨as, hb, hc⟩ | ⟨as, hb, hc⟩
  · cases as with
    | nil =>
      obtain ⟨rfl, rfl⟩ := List.cons.inj hc
      rw [List.append_nil] at hb
      exact ⟨rfl, hb.symm, rfl⟩
    | cons a as =>
      obtain ⟨-, rfl⟩ := List.cons.inj hc
      exact absurd (List.mem_append_right _ List.mem_cons_self) (hv.not_mem (c := '.') rfl)
  · cases as with
    | nil =>
      obtain ⟨rfl, rfl⟩ := List.cons.inj hc
      rw [List.append_nil] at hb
      exact ⟨rfl, hb, rfl⟩
    | cons a as =>
      obtain ⟨rfl, -⟩ := List.cons.inj hc
      exact absurd ⟨before, as, by rw [hb]; simp⟩ hu

theorem marked_append {y : String} {c : Char} (hx : Marked x) (hs : IsSegment s.toList)
    (hc : c = '.' → ¬ EndsInPrototype x) (hy : y.toList = x.toList ++ c :: s.toList) :
  Marked y
  := by
  rintro ⟨before, rest, he⟩
  rw [hy] at he
  obtain ⟨hdot, hend, -⟩ := eq_of_append_cons_eq hx hs he.symm
  apply hc hdot
  rw [EndsInPrototype, hend]
  apply List.suffix_append

theorem toList_append_dot (x s : String) :
  (x ++ "." ++ s).toList = x.toList ++ '.' :: s.toList
  := by
  rw [String.toList_append, String.toList_append, List.append_assoc]
  rfl

/-- After anything but a prototype, a segment is added as it is. -/
theorem memberName_of_not_endsInPrototype (hx : Marked x) (hs : IsSegment s.toList)
    (he : ¬ EndsInPrototype x) :
  memberName x s = x ++ "." ++ s
  := by
  have hm := marked_append hx hs (fun _ => he) (toList_append_dot x s)
  rw [memberName, markPrototype, Text.replaceFirst]
  cases hsplit : Text.splitFirst? ".prototype.".toList (x ++ "." ++ s).toList with
  | none => apply String.ofList_toList
  | some parts => exact absurd ⟨parts.1, parts.2, (Text.eq_of_splitFirst? hsplit).symm⟩ hm

/-- After a prototype, a number sign takes its place. -/
theorem memberName_of_endsInPrototype (hx : Marked x) (hs : IsSegment s.toList)
    (he : EndsInPrototype x) :
  ∃ y, x = y ++ ".prototype" ∧ memberName x s = y ++ "#" ++ s
  := by
  obtain ⟨us, hus⟩ := he
  have hxy : x = String.ofList us ++ ".prototype" := by
    rw [← String.toList_inj, String.toList_append, String.toList_ofList, hus]
  use String.ofList us, hxy
  have htext : (x ++ "." ++ s).toList = us ++ ".prototype.".toList ++ s.toList := by
    rw [toList_append_dot, ← hus, List.append_assoc, List.append_assoc]
    rfl
  obtain ⟨⟨before, rest⟩, hsplit⟩ := Text.exists_splitFirst? ".prototype.".toList us s.toList
  have heq := Text.eq_of_splitFirst? hsplit
  rw [← htext] at hsplit heq
  rw [toList_append_dot] at heq
  obtain ⟨-, hbefore, rfl⟩ := eq_of_append_cons_eq hx hs heq
  rw [← hus, List.append_left_inj] at hbefore
  rw [memberName, markPrototype, Text.replaceFirst, hsplit, hbefore, String.ofList_append,
    String.ofList_append, String.ofList_toList]

theorem marked_memberName (hx : Marked x) (hs : IsSegment s.toList) :
  Marked (memberName x s)
  := by
  by_cases he : EndsInPrototype x
  · obtain ⟨y, rfl, hm⟩ := memberName_of_endsInPrototype hx hs he
    have hy : Marked y := by
      intro h
      apply hx
      rw [String.toList_append]
      apply h.trans (List.prefix_append _ _).isInfix
    rw [hm]
    apply marked_append hy hs (c := '#')
    · intro h
      cases h
    · rw [String.toList_append, String.toList_append, List.append_assoc]
      rfl
  · rw [memberName_of_not_endsInPrototype hx hs he]
    apply marked_append hx hs (fun _ => he) (toList_append_dot x s)

theorem marked_foldl_memberName {ks : List String} (hx : Marked x)
    (hk : ∀ k ∈ ks, IsSegment k.toList) :
  Marked (ks.foldl memberName x)
  := by
  induction ks generalizing x with
  | nil => apply hx
  | cons k ks ih =>
    rw [List.forall_mem_cons] at hk
    apply ih (marked_memberName hx hk.1) hk.2

/-- A name ends in a prototype exactly if its last separator is a point and a prototype follows. -/
theorem endsInPrototype_iff {y : String} {c : Char} (hc : isSeparator c) (hs : IsSegment s.toList)
    (hy : y.toList = x.toList ++ c :: s.toList) :
  EndsInPrototype y ↔ c = '.' ∧ s = "prototype"
  := by
  have hend : ".prototype".toList = '.' :: "prototype".toList := rfl
  rw [EndsInPrototype, hy, hend]
  constructor
  · rintro ⟨us, hus⟩
    obtain ⟨-, hdot, hseg⟩ := append_cons_inj (by decide) hc (by decide) hs hus
    exact ⟨hdot.symm, (String.toList_inj.1 hseg).symm⟩
  · rintro ⟨rfl, rfl⟩
    apply List.suffix_append

theorem endsInPrototype_append_iff (hs : IsSegment s.toList) :
  EndsInPrototype (x ++ "." ++ s) ↔ s = "prototype"
  := by
  rw [endsInPrototype_iff (by decide) hs (toList_append_dot x s)]
  simp

/-! ### Lengths -/

theorem length_keyedName (x : String) (ks : List String) :
  (keyedName x ks).length = x.length + (keyedName "" ks).length
  := by
  induction ks generalizing x with
  | nil => rfl
  | cons k ks ih =>
    have hcons : ∀ y, keyedName y (k :: ks) = keyedName (y ++ "." ++ k) ks := fun _ => rfl
    rw [hcons, hcons, ih (x ++ "." ++ k), ih ("" ++ "." ++ k)]
    simp only [String.length_append, String.length_empty]
    omega

theorem length_memberName_lt (hx : Marked x) (hs : IsSegment s.toList) (he : EndsInPrototype x) :
  (memberName x s).length < (x ++ "." ++ s).length
  := by
  obtain ⟨y, rfl, hm⟩ := memberName_of_endsInPrototype hx hs he
  have hsign : "#".length = 1 := rfl
  have hproto : ".prototype".length = 10 := rfl
  rw [hm, String.length_append, String.length_append, String.length_append, String.length_append,
    String.length_append, hsign, hproto]
  omega

theorem length_foldl_memberName_le {ks : List String} (hx : Marked x)
    (hk : ∀ k ∈ ks, IsSegment k.toList) :
  (ks.foldl memberName x).length ≤ (keyedName x ks).length
  := by
  induction ks generalizing x with
  | nil => apply Nat.le_refl
  | cons k ks ih =>
    rw [List.forall_mem_cons] at hk
    have hle : (memberName x k).length ≤ (x ++ "." ++ k).length := by
      by_cases he : EndsInPrototype x
      · apply Nat.le_of_lt (length_memberName_lt hx hk.1 he)
      · apply Nat.le_of_eq
        rw [memberName_of_not_endsInPrototype hx hk.1 he]
    calc ((k :: ks).foldl memberName x).length
        ≤ (keyedName (memberName x k) ks).length := ih (marked_memberName hx hk.1) hk.2
      _ ≤ (keyedName (x ++ "." ++ k) ks).length := by
        rw [length_keyedName, length_keyedName (x ++ "." ++ k)]
        omega

/-- Segments added one by one with marks give the same name as without, exactly if no prototype
comes before one of them. -/
theorem foldl_memberName_eq_keyedName_iff {ks : List String} (hx : Marked x)
    (hk : ∀ k ∈ ks, IsSegment k.toList) :
  ks.foldl memberName x = keyedName x ks
    ↔ (ks ≠ [] → ¬ EndsInPrototype x) ∧ "prototype" ∉ ks.dropLast
  := by
  induction ks generalizing x with
  | nil => simp [keyedName]
  | cons k ks ih =>
    rw [List.forall_mem_cons] at hk
    by_cases he : EndsInPrototype x
    · -- The mark makes the name shorter, and no later segment makes up for it.
      have hlt : ((k :: ks).foldl memberName x).length < (keyedName x (k :: ks)).length := by
        calc ((k :: ks).foldl memberName x).length
            ≤ (keyedName (memberName x k) ks).length :=
              length_foldl_memberName_le (marked_memberName hx hk.1) hk.2
          _ < (keyedName (x ++ "." ++ k) ks).length := by
            have hlt := length_memberName_lt hx hk.1 he
            rw [length_keyedName, length_keyedName (x ++ "." ++ k)]
            omega
      constructor
      · intro heq
        rw [heq] at hlt
        exact absurd hlt (Nat.lt_irrefl _)
      · intro h
        exact absurd he (h.1 (List.cons_ne_nil _ _))
    · have hm := memberName_of_not_endsInPrototype hx hk.1 he
      have hmarked := marked_memberName hx hk.1
      rw [hm] at hmarked
      rw [List.foldl_cons, hm, keyedName, List.foldl_cons, ← keyedName, ih hmarked hk.2,
        endsInPrototype_append_iff hk.1]
      cases ks with
      | nil => simp [he]
      | cons k' ks =>
        simp only [List.dropLast_cons_cons, List.mem_cons, not_or, ne_eq, reduceCtorEq,
          not_false_eq_true, forall_const, he, true_and, eq_comm]

end DocPages

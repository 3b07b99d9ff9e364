import DocPages.QualifiedName
import Mathlib.Tactic.Common

/-!
# The parts of qualified names

A name without separators is short.  Any other name is split at its last separator: what follows
is the short name, and what stands before it, with points for all separators, is the namespace.
So a name that does not start with a separator always has a signature.
-/

namespace DocPages.QualifiedName

/-! ### Segments -/

/-- A text with no separator in it. -/
def IsSegment (cs : List Char) : Prop :=
  ∀ c ∈ cs, isSeparator c = false

instance (cs : List Char) : Decidable (IsSegment cs) :=
  List.decidableBAll (fun c => isSeparator c = false) cs

/-- A text with points for all separators. -/
def pointed (cs : List Char) : List Char :=
  cs.map fun c => if isSeparator c then '.' else c

/-- A text is a segment, or it ends with one after a separator. -/
theorem isSegment_or_exists_append (cs : List Char) :
  IsSegment cs ∨ ∃ us c vs, cs = us ++ c :: vs ∧ isSeparator c ∧ IsSegment vs
  := by
  induction cs with
  | nil =>
    left
    intro c hc
    cases hc
  | cons d cs ih =>
    rcases ih with hcs | ⟨us, c, vs, rfl, hc, hvs⟩
    · cases hd : isSeparator d with
      | false =>
        left
        rw [IsSegment, List.forall_mem_cons]
        exact ⟨hd, hcs⟩
      | true =>
        right
        exact ⟨[], d, cs, rfl, hd, hcs⟩
    · right
      exact ⟨d :: us, c, vs, rfl, hc, hvs⟩

theorem segments_of_isSegment {cs : List Char} (h : IsSegment cs) :
  segments cs = [cs]
  := List.splitOnP_eq_singleton h

theorem segments_append_cons (us vs : List Char) {c : Char} (hc : isSeparator c) :
  segments (us ++ c :: vs) = segments us ++ segments vs
  := List.splitOnP_append_cons us vs hc

theorem IsSegment.not_mem {cs : List Char} {c : Char} (h : IsSegment cs) (hc : isSeparator c) :
  c ∉ cs
  := by
  intro hm
  have hfalse := h c hm
  rw [hc] at hfalse
  cases hfalse

/-- A text has one last separator. -/
theorem append_cons_inj {us us' vs vs' : List Char} {c c' : Char} (hc : isSeparator c)
    (hc' : isSeparator c') (hv : IsSegment vs) (hv' : IsSegment vs')
    (he : us ++ c :: vs = us' ++ c' :: vs') :
  us = us' ∧ c = c' ∧ vs = vs'
  := by
  rcases List.append_eq_append_iff.1 he with ⟨as, rfl, ha⟩ | ⟨as, rfl, ha⟩
  · cases as with
    | nil =>
      obtain ⟨rfl, rfl⟩ := List.cons.inj ha
      exact ⟨(List.append_nil us).symm, rfl, rfl⟩
    | cons a as =>
      obtain ⟨-, rfl⟩ := List.cons.inj ha
      exact absurd (List.mem_append_right _ List.mem_cons_self) (hv.not_mem hc')
  · cases as with
    | nil =>
      obtain ⟨rfl, rfl⟩ := List.cons.inj ha
      exact ⟨List.append_nil us', rfl, rfl⟩
    | cons a as =>
      obtain ⟨-, rfl⟩ := List.cons.inj ha
      exact absurd (List.mem_append_right _ List.mem_cons_self) (hv'.not_mem hc)

/-- The segments joined by points are the text with points for all separators. -/
theorem intercalate_segments (cs : List Char) :
  ['.'].intercalate (segments cs) = pointed cs
  := by
  induction cs with
  | nil => rfl
  | cons c cs ih =>
    obtain ⟨s, ss, hs⟩ := List.exists_cons_of_ne_nil (List.splitOnP_ne_nil isSeparator cs)
    rw [segments, hs] at ih
    rw [segments, List.splitOnP_cons_eq_if_modifyHead, hs, pointed, List.map_cons, ← pointed, ← ih]
    split
    · rw [List.intercalate_cons_cons]
      rfl
    · cases ss with
      | nil => simp
      | cons s' ss => simp [List.intercalate_cons_cons]

/-! ### Names -/

variable {s : String} {us vs : List Char} {c : Char}

theorem outer?_of_isSegment (h : IsSegment s.toList) :
  (parse s).outer? = none
  := by
  simp [parse, segments_of_isSegment h]

theorem shortName_of_isSegment (h : IsSegment s.toList) :
  (parse s).shortName = s
  := by
  simp [parse, segments_of_isSegment h]

theorem outer?_append_cons (hs : s.toList = us ++ c :: vs) (hc : isSeparator c)
    (hv : IsSegment vs) :
  (parse s).outer? = if us = [] then none else some (String.ofList (pointed us))
  := by
  have hempty : (pointed us).isEmpty ↔ us = [] := by
    rw [List.isEmpty_iff, pointed, List.map_eq_nil_iff]
  simp only [parse, hs, segments_append_cons us vs hc, segments_of_isSegment hv,
    List.dropLast_concat, intercalate_segments, hempty]

theorem shortName_append_cons (hs : s.toList = us ++ c :: vs) (hc : isSeparator c)
    (hv : IsSegment vs) :
  (parse s).shortName = String.ofList vs
  := by
  simp [parse, hs, segments_append_cons us vs hc, segments_of_isSegment hv]

/-- The namespace of a name, or the short name if there is no namespace, is the whole name exactly
if the name has no separator. -/
theorem outer?_getD_shortName_eq_iff :
  (parse s).outer?.getD (parse s).shortName = s ↔ IsSegment s.toList
  := by
  rcases isSegment_or_exists_append s.toList with hseg | ⟨us, c, vs, hs, hc, hv⟩
  · rw [outer?_of_isSegment hseg, Option.getD_none, shortName_of_isSegment hseg]
    exact ⟨fun _ => hseg, fun _ => rfl⟩
  · -- The name is longer than each of its parts.
    have hne : (parse s).outer?.getD (parse s).shortName ≠ s := by
      intro he
      have hlen := congrArg (fun s => s.toList.length) he
      rw [outer?_append_cons hs hc hv, shortName_append_cons hs hc hv] at hlen
      split at hlen
      · simp only [Option.getD_none, String.toList_ofList, hs, List.length_append,
          List.length_cons] at hlen
        omega
      · simp only [Option.getD_some, String.toList_ofList, pointed, hs, List.length_append,
          List.length_cons, List.length_map] at hlen
        omega
    constructor
    · intro he
      exact absurd he hne
    · intro hseg
      rw [hs] at hseg
      exact absurd (List.mem_append_right _ List.mem_cons_self) (hseg.not_mem hc)

theorem signature_of_isSegment (h : IsSegment s.toList) (params : List String) :
  (parse s).signature params
    = some ("function " ++ (parse s).shortName ++ ("(" ++ ", ".intercalate params ++ ")"))
  := by
  have hname : (parse s).name = (parse s).shortName := (shortName_of_isSegment h).symm
  rw [signature, if_pos hname]

theorem signature_append_cons (hs : s.toList = us ++ c :: vs) (hc : isSeparator c)
    (hv : IsSegment vs) (params : List String) :
  (parse s).signature params = (parse s).outer?.map fun ns =>
    ns ++ "." ++ (parse s).shortName ++ " = function" ++ ("(" ++ ", ".intercalate params ++ ")")
  := by
  have hname : (parse s).name ≠ (parse s).shortName := by
    intro he
    have hlen := congrArg (fun s => s.toList.length) he
    rw [shortName_append_cons hs hc hv, String.toList_ofList] at hlen
    simp only [parse, hs, List.length_append, List.length_cons] at hlen
    omega
  rw [signature, if_neg hname]

end DocPages.QualifiedName

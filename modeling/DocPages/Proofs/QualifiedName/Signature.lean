import DocPages.Proofs.Namespace.Anchors
import DocPages.Record.Basic

/-!
# The parts of a name and its signature

The namespace, the short name and the identifier of a name are taken from it in three ways, and
they fit together: the first two give the name again but for the choice of its separators, and both
can be read off the third if there are no other dashes.  This holds of every text, whichever of its
segments are empty.

A name has a signature unless it is a separator with a short name after it: such a name has a
separator in it and no namespace.
-/

namespace DocPages.QualifiedName

variable {s : String} {us vs : List Char} {c : Char}

/-! ### Parts -/

theorem not_isSegment_append_cons (us vs : List Char) (hc : isSeparator c) :
  ¬ IsSegment (us ++ c :: vs)
  := by
  intro h
  apply h.not_mem hc (List.mem_append_right _ List.mem_cons_self)

theorem isSegment_shortName (s : String) :
  IsSegment (parse s).shortName.toList
  := by
  rcases isSegment_or_exists_append s.toList with hseg | ⟨us, c, vs, hs, hc, hv⟩
  · rw [shortName_of_isSegment hseg]
    exact hseg
  · rw [shortName_append_cons hs hc hv, String.toList_ofList]
    exact hv

/-- What stands before the last separator of a name is its namespace. -/
theorem exists_append_of_outer? {ns : String} (h : (parse s).outer? = some ns) :
  ∃ us c vs, s.toList = us ++ c :: vs ∧ isSeparator c ∧ IsSegment vs
    ∧ ns = String.ofList (pointed us)
  := by
  rcases isSegment_or_exists_append s.toList with hseg | ⟨us, c, vs, hs, hc, hv⟩
  · rw [outer?_of_isSegment hseg] at h
    cases h
  · rw [outer?_append_cons hs hc hv] at h
    split at h
    · cases h
    · cases h
      exact ⟨us, c, vs, hs, hc, hv, rfl⟩

/-- The namespace and the short name are the name with points for all separators. -/
theorem pointed_eq_of_outer? {ns : String} (h : (parse s).outer? = some ns) :
  pointed s.toList = (ns ++ "." ++ (parse s).shortName).toList
  := by
  obtain ⟨us, c, vs, hs, hc, hv, rfl⟩ := exists_append_of_outer? h
  have hpointed : pointed (us ++ c :: vs) = pointed us ++ '.' :: vs :=
    withSeparator_append_cons '.' us hc hv
  rw [shortName_append_cons hs hc hv, hs, hpointed]
  simp

theorem sign_not_mem_of_outer? {ns : String} (h : (parse s).outer? = some ns) :
  '#' ∉ ns.toList
  := by
  obtain ⟨us, c, vs, -, -, -, rfl⟩ := exists_append_of_outer? h
  rw [String.toList_ofList]
  intro hmem
  obtain ⟨d, -, hd⟩ := List.mem_map.1 hmem
  split at hd
  · cases hd
  · rename_i hnot
    subst hd
    exact hnot rfl

/-- The segments before the last one, joined by points, are the namespace unless that is empty. -/
theorem outer?_eq_some_iff {ns : String} :
  (parse s).outer? = some ns
    ↔ ns ≠ "" ∧ ns.toList = ['.'].intercalate (segments s.toList).dropLast
  := by
  simp only [parse]
  generalize ['.'].intercalate (segments s.toList).dropLast = outer
  rw [ne_eq, ← String.toList_eq_nil_iff]
  split
  · rename_i hempty
    rw [List.isEmpty_iff.1 hempty]
    constructor
    · intro h
      cases h
    · intro h
      exact absurd h.2 h.1
  · rename_i hne
    rw [List.isEmpty_iff] at hne
    constructor
    · rintro ⟨rfl⟩
      rw [String.toList_ofList]
      exact ⟨hne, rfl⟩
    · rintro ⟨-, rfl⟩
      rw [String.ofList_toList]

/-- If there are no dashes in a text, those that stand for its separators are the only ones. -/
theorem splitOn_withSeparator {cs : List Char} (h : '-' ∉ cs) :
  (withSeparator '-' cs).splitOn '-' = segments cs
  := by
  induction cs with
  | nil => rfl
  | cons c cs ih =>
    rw [List.mem_cons, not_or] at h
    have hsplit : (withSeparator '-' cs).splitOnP (· == '-') = cs.splitOnP isSeparator := ih h.2
    have hhead : ((if isSeparator c then '-' else c) == '-') = isSeparator c := by
      cases hc : isSeparator c with
      | false => simpa using fun he : c = '-' => h.1 he.symm
      | true => rfl
    rw [List.splitOn, segments, withSeparator, List.map_cons, ← withSeparator,
      List.splitOnP_cons_eq_if_modifyHead, List.splitOnP_cons_eq_if_modifyHead, hsplit, hhead]
    split
    · rfl
    · rfl

/-- A name and its parts fit together. -/
structure FitsParts (s : String) (n : QualifiedName) : Prop where
  joined : ∀ ns, n.outer? = some ns → pointed s.toList = (ns ++ "." ++ n.shortName).toList
  short : IsSegment n.shortName.toList
  unmarked : ∀ ns, n.outer? = some ns → '#' ∉ ns.toList
  last : '-' ∉ s.toList → (n.identifier.toList.splitOn '-').getLast? = some n.shortName.toList
  others : '-' ∉ s.toList → ∀ ns, n.outer? = some ns
    ↔ ns ≠ "" ∧ ns.toList = ['.'].intercalate (n.identifier.toList.splitOn '-').dropLast

theorem fitsParts_parse (s : String) :
  FitsParts s (parse s)
  := by
  have hsplit : '-' ∉ s.toList → (parse s).identifier.toList.splitOn '-' = segments s.toList := by
    intro h
    rw [parse, anchor, String.toList_ofList]
    apply splitOn_withSeparator h
  refine ⟨fun ns h => pointed_eq_of_outer? h, isSegment_shortName s,
    fun ns h => sign_not_mem_of_outer? h, ?_, ?_⟩
  · intro h
    have hne : segments s.toList ≠ [] := List.splitOnP_ne_nil isSeparator s.toList
    rw [hsplit h, parse, List.getLast?_eq_some_getLast hne, Option.getD_some, String.toList_ofList]
  · intro h ns
    rw [hsplit h]
    apply outer?_eq_some_iff

/-! ### Signatures -/

/-- A separator and then a text without separators. -/
def IsUnowned (cs : List Char) : Prop :=
  ∃ c vs, cs = c :: vs ∧ isSeparator c ∧ IsSegment vs

theorem isUnowned_append_cons_iff (us : List Char) (hc : isSeparator c) (hv : IsSegment vs) :
  IsUnowned (us ++ c :: vs) ↔ us = []
  := by
  constructor
  · rintro ⟨c', vs', he, hc', hv'⟩
    have hinj : us = [] ∧ c = c' ∧ vs = vs' := append_cons_inj hc hc' hv hv' he
    exact hinj.1
  · rintro rfl
    exact ⟨c, vs, rfl, hc, hv⟩

theorem not_isUnowned_of_isSegment {cs : List Char} (h : IsSegment cs) :
  ¬ IsUnowned cs
  := by
  rintro ⟨c, vs, rfl, hc, -⟩
  apply h.not_mem hc List.mem_cons_self

theorem not_isUnowned_of_isQualified (h : IsQualified s) :
  ¬ IsUnowned s.toList
  := by
  rintro ⟨c, vs, hs, hc, hv⟩
  have hs' : s.toList = [] ++ c :: vs := hs
  have hsome := outer?_of_isQualified h hs' hc hv
  rw [outer?_append_cons hs' hc hv, if_pos rfl] at hsome
  cases hsome

/-- The parameters as a signature shows them, those without a name as nothing. -/
def shownParams (params : List Param) : String :=
  "(" ++ ", ".intercalate (params.map fun p => p.name.getD "") ++ ")"

/-- The signature of a name and parameters. -/
structure Signs (s : String) (params : List Param) (signature : Option String) : Prop where
  none_iff : signature = none ↔ IsUnowned s.toList
  short : IsSegment s.toList →
    signature = some ("function " ++ (parse s).shortName ++ shownParams params)
  member : ¬ IsSegment s.toList → ¬ IsUnowned s.toList →
    ∃ ns, (parse s).outer? = some ns
      ∧ signature = some (ns ++ "." ++ (parse s).shortName ++ " = function" ++ shownParams params)
  isSome : IsQualified s → signature.isSome

theorem signs_signature (s : String) (params : List Param) :
  Signs s params ((parse s).signature (params.map fun p => p.name.getD ""))
  := by
  rcases isSegment_or_exists_append s.toList with hseg | ⟨us, c, vs, hs, hc, hv⟩
  · have hsig := signature_of_isSegment hseg (params.map fun p => p.name.getD "")
    rw [hsig]
    exact {
      none_iff := ⟨nofun, fun h => absurd h (not_isUnowned_of_isSegment hseg)⟩
      short := fun _ => rfl
      member := fun h => absurd hseg h
      isSome := fun _ => rfl }
  · have hnot : ¬ IsSegment s.toList := by
      rw [hs]
      apply not_isSegment_append_cons us vs hc
    have hunowned : IsUnowned s.toList ↔ us = [] := by
      rw [hs]
      apply isUnowned_append_cons_iff us hc hv
    rw [signature_append_cons hs hc hv, outer?_append_cons hs hc hv]
    by_cases hus : us = []
    · rw [if_pos hus]
      exact {
        none_iff := ⟨fun _ => hunowned.2 hus, fun _ => rfl⟩
        short := fun h => absurd h hnot
        member := fun _ h => absurd (hunowned.2 hus) h
        isSome := fun h => absurd (hunowned.2 hus) (not_isUnowned_of_isQualified h) }
    · rw [if_neg hus]
      exact {
        none_iff := ⟨nofun, fun h => absurd (hunowned.1 h) hus⟩
        short := fun h => absurd h hnot
        member := fun _ _ => ⟨_, by rw [outer?_append_cons hs hc hv, if_neg hus], rfl⟩
        isSome := fun _ => rfl }

/-- Every text has parts that fit together, and a signature unless it is a separator and a short
name after it. -/
theorem parse_fitsParts_and_signs (s : String) (params : List Param) :
  FitsParts s (parse s)
    ∧ Signs s params ((parse s).signature (params.map fun p => p.name.getD ""))
  := ⟨fitsParts_parse s, signs_signature s params⟩

example : parse "a#.b" = ⟨"a#.b", "b", some "a.", "a--b"⟩ := by decide

example : (parse "#b").signature ["x"] = none := by decide

end DocPages.QualifiedName

import DocPages.Proofs.Namespace.Members
import Mathlib.Data.List.Nodup

/-!
# The anchors of names

The identifier of a name has a dash for each separator, so it does not say which separators these
were.  Names that differ in nothing else are alike, and have one identifier.  The converse holds for
the names that are shown in one namespace, whatever characters they have, and for all names without
dashes.
-/

namespace DocPages

/-! ### Names that are alike -/

namespace QualifiedName

/-- All segments of the name have characters in them. -/
def IsQualified (s : String) : Prop :=
  ∀ cs ∈ segments s.toList, cs ≠ []

instance (s : String) : Decidable (IsQualified s) :=
  List.decidableBAll (fun cs => cs ≠ []) (segments s.toList)

/-- The names differ at most in the choice of their separators. -/
def Alike (s t : String) : Prop :=
  pointed s.toList = pointed t.toList

instance (s t : String) : Decidable (Alike s t) :=
  inferInstanceAs (Decidable (pointed s.toList = pointed t.toList))

/-- A text with one character for all separators. -/
def withSeparator (d : Char) (cs : List Char) : List Char :=
  cs.map fun c => if isSeparator c then d else c

variable {s t : String} {cs us us' vs : List Char} {c : Char}

theorem alike_iff :
  Alike s t ↔ withSeparator '.' s.toList = withSeparator '.' t.toList
  := Iff.rfl

theorem anchor_eq_anchor_iff :
  anchor s = anchor t ↔ withSeparator '-' s.toList = withSeparator '-' t.toList
  := String.ofList_inj

theorem length_withSeparator (d : Char) (cs : List Char) :
  (withSeparator d cs).length = cs.length
  := List.length_map _

theorem withSeparator_of_isSegment (d : Char) (h : IsSegment cs) :
  withSeparator d cs = cs
  := by
  have hself : ∀ c ∈ cs, (if isSeparator c then d else c) = id c := by
    intro c hc
    rw [h c hc]
    rfl
  rw [withSeparator, List.map_congr_left hself, List.map_id]

theorem withSeparator_append_cons (d : Char) (us : List Char) (hc : isSeparator c)
    (hv : IsSegment vs) :
  withSeparator d (us ++ c :: vs) = withSeparator d us ++ d :: vs
  := by
  rw [withSeparator, List.map_append, List.map_cons, if_pos hc, ← withSeparator, ← withSeparator,
    withSeparator_of_isSegment d hv]

/-- Texts that differ in their separators alone are the same with any one separator. -/
theorem withSeparator_congr (d : Char) (h : pointed us = pointed us') :
  withSeparator d us = withSeparator d us'
  := by
  have hpointed : ∀ cs : List Char, withSeparator d cs = withSeparator d (pointed cs) := by
    intro cs
    rw [withSeparator, withSeparator, pointed, List.map_map]
    apply List.map_congr_left
    intro c _
    rw [Function.comp_apply]
    cases hc : isSeparator c with
    | false => simp [hc]
    | true => rfl
  rw [hpointed, h, ← hpointed]

/-- Names that are alike have one anchor. -/
theorem Alike.anchor_eq (h : Alike s t) :
  anchor s = anchor t
  := anchor_eq_anchor_iff.2 (withSeparator_congr '-' h)

/-- Dashes that stand for separators can be told from other characters if there are no other
dashes. -/
theorem anchor_eq_anchor_iff_alike (hs : '-' ∉ s.toList) (ht : '-' ∉ t.toList) :
  anchor s = anchor t ↔ Alike s t
  := by
  have hback : ∀ cs : List Char, '-' ∉ cs →
      (withSeparator '-' cs).map (fun c => if c = '-' then '.' else c) = withSeparator '.' cs := by
    intro cs hcs
    rw [withSeparator, withSeparator, List.map_map]
    apply List.map_congr_left
    intro c hc
    rw [Function.comp_apply]
    split
    · rfl
    · apply if_neg
      rintro rfl
      exact hcs hc
  constructor
  · intro h
    rw [alike_iff, ← hback _ hs, anchor_eq_anchor_iff.1 h, hback _ ht]
  · apply Alike.anchor_eq

/-- A name that has no empty segments and a separator belongs to a namespace. -/
theorem outer?_of_isQualified (hq : IsQualified s) (hs : s.toList = us ++ c :: vs)
    (hc : isSeparator c) (hv : IsSegment vs) :
  (parse s).outer? = some (String.ofList (pointed us))
  := by
  have hus : us ≠ [] := by
    rintro rfl
    have hempty : [] ∈ segments s.toList := by
      rw [hs, segments_append_cons [] vs hc]
      apply List.mem_append_left _ List.mem_cons_self
    exact hq [] hempty rfl
  rw [outer?_append_cons hs hc hv, if_neg hus]

/-- The name belongs to a namespace: it is the name of the namespace, or that name, with
whichever separators, and then one more segment. -/
inductive BelongsTo (name : String) : String → Prop where
  | self :
      BelongsTo name name
  | inside {s : String} {us vs : List Char} {c : Char} :
      s.toList = us ++ c :: vs → isSeparator c → IsSegment vs → name.toList = pointed us →
        BelongsTo name s

/-- Of the names that belong to a namespace, only those that are alike have one anchor. -/
theorem BelongsTo.alike {name : String} (hs : BelongsTo name s) (ht : BelongsTo name t)
    (h : anchor s = anchor t) :
  Alike s t
  := by
  rw [anchor_eq_anchor_iff] at h
  have hlength := congrArg List.length h
  rw [length_withSeparator, length_withSeparator] at hlength
  cases hs with
  | self =>
    cases ht with
    | self => rfl
    | inside ht _ _ hname =>
      -- The name of the namespace is shorter than all others.
      rw [ht, hname, List.length_append, List.length_cons, pointed, List.length_map] at hlength
      omega
  | inside hs hc hv hname =>
    cases ht with
    | self =>
      rw [hs, hname, List.length_append, List.length_cons, pointed, List.length_map] at hlength
      omega
    | inside ht hc' hv' hname' =>
      -- The identifiers agree up to the last separator, so they agree after it.
      have houter := hname.symm.trans hname'
      rw [hs, ht, withSeparator_append_cons _ _ hc hv, withSeparator_append_cons _ _ hc' hv',
        withSeparator_congr '-' houter] at h
      have hlast := (List.cons.inj (List.append_cancel_left h)).2
      rw [alike_iff, hs, ht, withSeparator_append_cons _ _ hc hv,
        withSeparator_append_cons _ _ hc' hv', withSeparator_congr '.' houter, hlast]

end QualifiedName

/-! ### Names of one namespace -/

/-- Every record has the parts of its own name, no name has an empty segment, and no two records
have one name. -/
structure ProperlyNamed (rs : List Record) : Prop where
  wellNamed : WellNamed rs
  isQualified : ∀ r ∈ rs, QualifiedName.IsQualified r.name.name
  nodup : (rs.map fun r => r.name.name).Nodup

namespace Entry

variable {rs : List Record} {e e' : Entry}

/-- If no two records have one name, a name says which record has it. -/
theorem name_eq_name_iff (hd : (rs.map fun r => r.name.name).Nodup) (he : e ∈ ofRecords rs)
    (he' : e' ∈ ofRecords rs) :
  e.record.name.name = e'.record.name.name ↔ e = e'
  := by
  constructor
  · intro hname
    obtain ⟨i, r⟩ := e
    obtain ⟨i', r'⟩ := e'
    have hr : rs[i]? = some r := mem_ofRecords.1 he
    have hr' : rs[i']? = some r' := mem_ofRecords.1 he'
    have hi : i < (rs.map fun r => r.name.name).length := by
      rw [List.length_map]
      apply (List.getElem?_eq_some_iff.1 hr).1
    have hplace : i = i' := by
      apply (List.getElem?_inj hi hd).1
      rw [List.getElem?_map, List.getElem?_map, hr, hr']
      apply congrArg some hname
    subst hplace
    cases hr.symm.trans hr'
    rfl
  · rintro rfl
    rfl

/-- A function belongs to the namespace that it is grouped under. -/
theorem belongsTo_key (hrs : ProperlyNamed rs) (he : e ∈ ofRecords rs) :
  QualifiedName.BelongsTo e.key e.record.name.name
  := by
  rcases QualifiedName.isSegment_or_exists_append e.record.name.name.toList with
    hseg | ⟨us, c, vs, hname, hc, hv⟩
  · rw [(key_eq_name_iff hrs.wellNamed he).2 hseg]
    apply QualifiedName.BelongsTo.self
  · apply QualifiedName.BelongsTo.inside hname hc hv
    rw [key, hrs.wellNamed e.record (record_mem he), QualifiedName.outer?_of_isQualified
      (hrs.isQualified e.record (record_mem he)) hname hc hv, Option.getD_some,
      String.toList_ofList]

end Entry

namespace Namespace

open QualifiedName

variable {rs : List Record} {name : String} {e e' : Entry}

/-- What is shown of a namespace belongs to it. -/
theorem belongsTo_of_mem_allMembers (hrs : ProperlyNamed rs)
    (he : e ∈ (build (Groups.ofEntries (Entry.ofRecords rs)) name).allMembers) :
  BelongsTo name e.record.name.name
  := by
  rcases (mem_allMembers hrs.wellNamed).1 he with hfind | ⟨hmem, rfl, -⟩
  · have hname := List.find?_some hfind
    rw [eq_of_beq hname]
    apply BelongsTo.self
  · apply Entry.belongsTo_key hrs hmem

/-- In one namespace, functions have one identifier exactly if their names are alike. -/
theorem identifier_eq_iff_alike (hrs : ProperlyNamed rs)
    (he : e ∈ (build (Groups.ofEntries (Entry.ofRecords rs)) name).allMembers)
    (he' : e' ∈ (build (Groups.ofEntries (Entry.ofRecords rs)) name).allMembers) :
  e.record.name.identifier = e'.record.name.identifier
    ↔ Alike e.record.name.name e'.record.name.name
  := by
  rw [hrs.wellNamed.identifier_eq (record_mem_of_mem_allMembers he),
    hrs.wellNamed.identifier_eq (record_mem_of_mem_allMembers he')]
  constructor
  · apply (belongsTo_of_mem_allMembers hrs he).alike (belongsTo_of_mem_allMembers hrs he')
  · apply Alike.anchor_eq

/-- No function is shown twice in one namespace. -/
theorem nodup_allMembers (hrs : WellNamed rs) (name : String) :
  (build (Groups.ofEntries (Entry.ofRecords rs)) name).allMembers.Nodup
  := by
  have hentries : (Entry.ofRecords rs).Nodup := by
    apply (Entry.pairwise_place rs).imp
    rintro e e' hlt rfl
    exact absurd hlt (Nat.lt_irrefl _)
  have hmembers : (build (Groups.ofEntries (Entry.ofRecords rs)) name).members.Nodup :=
    (shows_build hrs name).members_perm.nodup_iff.2 (hentries.filter _)
  have hconstructor :
      (build (Groups.ofEntries (Entry.ofRecords rs)) name).constructor?.toList.Nodup := by
    cases (build (Groups.ofEntries (Entry.ofRecords rs)) name).constructor? with
    | none => apply List.nodup_nil
    | some e => apply List.nodup_singleton
  rw [allMembers, List.nodup_append]
  refine ⟨hconstructor, hmembers, ?_⟩
  rintro e he e' he' rfl
  have hname := ((shows_build hrs name).constructor_eq_some_iff e).1 (Option.mem_toList.1 he)
  exact (mem_members.1 he').2.2 hname.2.1

end Namespace

end DocPages

import DocPages.Proofs.Namespace

/-!
# The order of members

`Entry.Precedes` is the order in which the members of a namespace are shown: static ones first, then
by short name, and records that agree in both as they stand in the source.  The sort that makes the
list of members only compares the first two, but it leaves records that agree in them where they
were.  `Namespace.Shows` says what is shown of a namespace, whichever records there are.
-/

namespace DocPages

/-- A stable sort leaves items as they were that may stand in any order. -/
theorem filter_mergeSort {α : Type} {le : α → α → Bool}
    (htrans : ∀ a b c, le a b → le b c → le a c) (htotal : ∀ a b, le a b || le b a)
    {p : α → Bool} (hp : ∀ a b, p a → p b → le a b) (xs : List α) :
  (xs.mergeSort le).filter p = xs.filter p
  := by
  have hsorted : (xs.filter p).Pairwise fun a b => le a b := by
    apply List.pairwise_of_forall_mem_list
    intro a ha b hb
    apply hp a b (List.mem_filter.1 ha).2 (List.mem_filter.1 hb).2
  have hsub := (List.sublist_mergeSort htrans htotal hsorted List.filter_sublist).filter p
  rw [List.filter_filter] at hsub
  simp only [Bool.and_self] at hsub
  have hlen : (xs.filter p).length = ((xs.mergeSort le).filter p).length :=
    ((List.mergeSort_perm xs le).filter p).length_eq.symm
  rw [hsub.eq_of_length hlen]

/-! ### Comparing members -/

namespace Entry

/-- The first member is shown before the second one. -/
def Precedes (a b : Entry) : Prop :=
  a.record.isStatic = true ∧ b.record.isStatic = false
    ∨ a.record.isStatic = b.record.isStatic
      ∧ (a.record.name.shortName < b.record.name.shortName
        ∨ a.record.name.shortName = b.record.name.shortName ∧ a.place < b.place)

variable {a b c : Entry}

theorem before_iff :
  before a b ↔ a.record.isStatic = true ∧ b.record.isStatic = false
    ∨ a.record.isStatic = b.record.isStatic ∧ a.record.name.shortName ≤ b.record.name.shortName
  := by
  rw [before]
  split
  · rename_i hstatic
    rw [Bool.not_eq_true', decide_eq_false_iff_not, String.not_lt]
    simp [hstatic]
  · rename_i hstatic
    revert hstatic
    cases a.record.isStatic <;> cases b.record.isStatic <;> simp

theorem before_trans (a b c : Entry) (hab : before a b) (hbc : before b c) :
  before a c
  := by
  rw [before_iff] at hab hbc ⊢
  rcases hab with ⟨ha, hb⟩ | ⟨hs, hle⟩
  · left
    rcases hbc with ⟨hb', -⟩ | ⟨hs, -⟩
    · rw [hb] at hb'
      cases hb'
    · exact ⟨ha, hs.symm.trans hb⟩
  · rw [hs]
    rcases hbc with hbc | ⟨hs', hle'⟩
    · left
      exact hbc
    · right
      exact ⟨hs', String.le_trans hle hle'⟩

theorem before_total (a b : Entry) :
  before a b || before b a
  := by
  rw [Bool.or_eq_true, before_iff, before_iff]
  rcases String.le_total a.record.name.shortName b.record.name.shortName with hle | hle
  · cases a.record.isStatic <;> cases b.record.isStatic <;> simp [hle]
  · cases a.record.isStatic <;> cases b.record.isStatic <;> simp [hle]

/-- Do the entries agree in all that is compared? -/
def agrees (a b : Entry) : Bool :=
  a.record.isStatic == b.record.isStatic && a.record.name.shortName == b.record.name.shortName

theorem before_of_agrees (ha : agrees a c) (hb : agrees b c) :
  before a b
  := by
  simp only [agrees, Bool.and_eq_true, beq_iff_eq] at ha hb
  have hname : a.record.name.shortName = b.record.name.shortName := ha.2.trans hb.2.symm
  rw [before_iff]
  right
  use ha.1.trans hb.1.symm
  exact hname ▸ String.le_refl a.record.name.shortName

/-- Entries that agree are left in the order in which they were. -/
theorem filter_agrees_mergeSort (c : Entry) (es : List Entry) :
  (es.mergeSort before).filter (agrees · c) = es.filter (agrees · c)
  := by
  apply filter_mergeSort before_trans before_total
  intro a b
  apply before_of_agrees

/-- Entries that stand in the order of their places are sorted into the order of members. -/
theorem pairwise_precedes {es : List Entry} (hes : es.Pairwise fun e e' => e.place < e'.place) :
  (es.mergeSort before).Pairwise Precedes
  := by
  have hsorted := List.pairwise_mergeSort before_trans before_total es
  rw [List.pairwise_iff_forall_sublist] at hes hsorted ⊢
  intro a b hab
  rcases before_iff.1 (hsorted hab) with hstatic | ⟨hstatic, hle⟩
  · left
    exact hstatic
  · right
    use hstatic
    by_cases hlt : a.record.name.shortName < b.record.name.shortName
    · left
      exact hlt
    · right
      have hname := String.le_antisymm hle (String.not_lt.1 hlt)
      use hname
      -- Only the entries that agree with the two are looked at, and these have not been moved.
      have hpair : [a, b].filter (agrees · b) = [a, b] := by simp [agrees, hstatic, hname]
      have hkept := hab.filter (agrees · b)
      rw [hpair, filter_agrees_mergeSort] at hkept
      apply hes (hkept.trans List.filter_sublist)

end Entry

/-! ### What is shown -/

namespace Namespace

variable {rs : List Record}

/-- What is shown of the namespace `name` of some records: as its constructor the first record with
its name, and as its members the other records of its group, in their order. -/
structure Shows (rs : List Record) (name : String) (ns : Namespace) : Prop where
  constructor_eq_some_iff : ∀ e, ns.constructor? = some e ↔ e ∈ Entry.ofRecords rs
    ∧ e.record.name.name = name
    ∧ ∀ e' ∈ Entry.ofRecords rs, e'.record.name.name = name → e.place ≤ e'.place
  constructor_eq_none_iff : ns.constructor? = none ↔ ∀ r ∈ rs, r.name.name ≠ name
  members_perm : ns.members.Perm
    ((Entry.ofRecords rs).filter fun e => e.key = name ∧ e.record.name.name ≠ name)
  members_pairwise : ns.members.Pairwise Entry.Precedes
  allMembers_eq : ns.allMembers = ns.constructor?.toList ++ ns.members

theorem members_build (rs : List Record) (name : String) :
  (build (Groups.ofEntries (Entry.ofRecords rs)) name).members
    = ((Entry.ofRecords rs).filter fun e =>
        e.key = name ∧ e.record.name.name ≠ name).mergeSort Entry.before
  := by
  have hgroup : ((Groups.ofEntries (Entry.ofRecords rs)).lookup name).getD []
      = (Entry.ofRecords rs).filter fun e => e.key == name := by
    rw [Groups.ofEntries, lookup_groupBy]
    split
    · rfl
    · rename_i hnone
      rw [Option.getD_none, eq_comm, List.filter_eq_nil_iff]
      intro e he hkey
      exact hnone (mem_keysOf.2 ⟨e, he, eq_of_beq hkey⟩)
  have hothers : ∀ e ∈ Entry.ofRecords rs, (e.record.name.name != name && e.key == name)
      = decide (e.key = name ∧ e.record.name.name ≠ name) := by
    intro e _
    apply Bool.eq_iff_iff.2
    simp [and_comm]
  rw [build, hgroup, List.filter_filter, List.filter_congr hothers]

theorem shows_build (hrs : WellNamed rs) (name : String) :
  Shows rs name (build (Groups.ofEntries (Entry.ofRecords rs)) name)
  := by
  constructor
  · intro e
    rw [constructor?_build hrs, Entry.find?_eq_some_iff (Entry.pairwise_place rs)]
    simp only [beq_iff_eq]
  · rw [constructor?_build hrs, List.find?_eq_none]
    constructor
    · intro hnone r hr hname
      obtain ⟨e, he, rfl⟩ := Entry.exists_of_mem hr
      exact hnone e he (beq_iff_eq.2 hname)
    · intro hnone e he hname
      exact hnone e.record (Entry.record_mem he) (eq_of_beq hname)
  · rw [members_build]
    apply List.mergeSort_perm
  · rw [members_build]
    apply Entry.pairwise_precedes
    apply (Entry.pairwise_place rs).filter
  · rfl

end Namespace

end DocPages

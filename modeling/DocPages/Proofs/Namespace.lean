import DocPages.Library.Basic
import DocPages.Proofs.Grouping
import DocPages.Proofs.QualifiedName
import Mathlib.Data.List.Pairwise
import Mathlib.Tactic.Common

/-!
# What is shown of namespaces

A namespace shows the first function that has its name, and the other functions of its group.  A
function whose name has no separator is its own namespace, so of several functions with such a name
only the first is shown; every other function is a member of its namespace.
-/

namespace DocPages

/-- Every record has the parts of its own name. -/
def WellNamed (rs : List Record) : Prop :=
  ∀ r ∈ rs, r.name = QualifiedName.parse r.name.name

theorem WellNamed.identifier_eq {rs : List Record} (hrs : WellNamed rs) {r : Record} (hr : r ∈ rs) :
  r.name.identifier = QualifiedName.anchor r.name.name
  := by
  rw [hrs r hr]
  rfl

/-! ### Entries -/

namespace Entry

variable {rs : List Record} {e : Entry}

theorem mem_ofRecords :
  e ∈ ofRecords rs ↔ rs[e.place]? = some e.record
  := by
  rw [ofRecords, List.mem_map]
  constructor
  · rintro ⟨⟨r, i⟩, hmem, rfl⟩
    exact List.mem_zipIdx_iff_getElem?.1 hmem
  · intro he
    exact ⟨(e.record, e.place), List.mem_zipIdx_iff_getElem?.2 he, rfl⟩

theorem record_mem (he : e ∈ ofRecords rs) :
  e.record ∈ rs
  := List.mem_of_getElem? (mem_ofRecords.1 he)

theorem exists_of_mem {r : Record} (hr : r ∈ rs) :
  ∃ e ∈ ofRecords rs, e.record = r
  := by
  obtain ⟨i, hi⟩ := List.mem_iff_getElem?.1 hr
  exact ⟨⟨i, r⟩, mem_ofRecords.2 hi, rfl⟩

/-- Entries stand in the order of their places. -/
theorem pairwise_place (rs : List Record) :
  (ofRecords rs).Pairwise fun e e' => e.place < e'.place
  := by
  have hplaces : (ofRecords rs).map Entry.place = List.range rs.length := by
    rw [ofRecords, List.map_map, List.range_eq_range', ← List.zipIdx_map_snd 0 rs]
    rfl
  rw [← List.pairwise_map, hplaces]
  apply List.pairwise_lt_range

/-- Of entries in the order of their places, the first for which a test holds is the one with the
least place. -/
theorem find?_eq_some_iff {es : List Entry} (hsorted : es.Pairwise fun e e' => e.place < e'.place)
    {p : Entry → Bool} :
  es.find? p = some e ↔ e ∈ es ∧ p e ∧ ∀ e' ∈ es, p e' → e.place ≤ e'.place
  := by
  induction es with
  | nil => simp
  | cons d es ih =>
    obtain ⟨hd, hes⟩ := List.pairwise_cons.1 hsorted
    rw [List.find?_cons]
    cases hp : p d with
    | true =>
      constructor
      · rintro ⟨⟩
        use List.mem_cons_self, hp
        intro e' he' _
        rcases List.mem_cons.1 he' with rfl | he'
        · apply Nat.le_refl
        · apply Nat.le_of_lt (hd e' he')
      · rintro ⟨he, -, hle⟩
        rcases List.mem_cons.1 he with rfl | he
        · rfl
        · have hlt := hd e he
          have hge := hle d List.mem_cons_self hp
          omega
    | false =>
      dsimp only
      rw [ih hes]
      simp only [List.mem_cons]
      constructor
      · rintro ⟨he, hpe, hle⟩
        use Or.inr he, hpe
        rintro e' (rfl | he') hpe'
        · rw [hp] at hpe'
          cases hpe'
        · apply hle e' he' hpe'
      · rintro ⟨rfl | he, hpe, hle⟩
        · rw [hp] at hpe
          cases hpe
        · exact ⟨he, hpe, fun e' he' => hle e' (Or.inr he')⟩

/-- The key of an entry is its name exactly if the name has no separator. -/
theorem key_eq_name_iff (hrs : WellNamed rs) (he : e ∈ ofRecords rs) :
  e.key = e.record.name.name ↔ QualifiedName.IsSegment e.record.name.name.toList
  := by
  rw [key, hrs e.record (record_mem he)]
  apply QualifiedName.outer?_getD_shortName_eq_iff

/-- Entries with one name have one key. -/
theorem key_eq_key (hrs : WellNamed rs) {e' : Entry} (he : e ∈ ofRecords rs)
    (he' : e' ∈ ofRecords rs) (hname : e.record.name.name = e'.record.name.name) :
  e.key = e'.key
  := by
  rw [key, key, hrs e.record (record_mem he), hrs e'.record (record_mem he'), hname]

end Entry

/-! ### Namespaces -/

namespace Namespace

variable {rs : List Record} {e : Entry} {name : String}

/-- The constructor of a namespace is the first function with its name. -/
theorem constructor?_build (hrs : WellNamed rs) (name : String) :
  (build (Groups.ofEntries (Entry.ofRecords rs)) name).constructor?
    = (Entry.ofRecords rs).find? fun e => e.record.name.name == name
  := by
  apply find?_groupBy
  intro e he e' he' hname hname'
  apply Entry.key_eq_key hrs he he'
  rw [eq_of_beq hname, eq_of_beq hname']

/-- The members of a namespace are the functions of its group with another name. -/
theorem mem_members :
  e ∈ (build (Groups.ofEntries (Entry.ofRecords rs)) name).members
    ↔ e ∈ Entry.ofRecords rs ∧ e.key = name ∧ e.record.name.name ≠ name
  := by
  rw [build, List.mem_mergeSort, List.mem_filter, bne_iff_ne]
  constructor
  · rintro ⟨hmem, hne⟩
    obtain ⟨he, hkey⟩ := mem_of_mem_group hmem
    exact ⟨he, hkey, hne⟩
  · rintro ⟨he, rfl, hne⟩
    exact ⟨mem_group he, hne⟩

theorem mem_allMembers (hrs : WellNamed rs) :
  e ∈ (build (Groups.ofEntries (Entry.ofRecords rs)) name).allMembers
    ↔ (Entry.ofRecords rs).find? (fun e => e.record.name.name == name) = some e
      ∨ e ∈ Entry.ofRecords rs ∧ e.key = name ∧ e.record.name.name ≠ name
  := by
  rw [allMembers, List.mem_append, Option.mem_toList, constructor?_build hrs, mem_members]

/-- What is shown of a namespace is among the entries. -/
theorem mem_ofRecords_of_mem_allMembers
    (he : e ∈ (build (Groups.ofEntries (Entry.ofRecords rs)) name).allMembers) :
  e ∈ Entry.ofRecords rs
  := by
  rcases List.mem_append.1 he with he | he
  · apply (flatMap_groupBy_perm Entry.key (Entry.ofRecords rs)).mem_iff.1
    apply List.mem_of_find?_eq_some (Option.mem_toList.1 he)
  · exact (mem_members.1 he).1

/-- What is shown of a namespace is among the records. -/
theorem record_mem_of_mem_allMembers
    (he : e ∈ (build (Groups.ofEntries (Entry.ofRecords rs)) name).allMembers) :
  e.record ∈ rs
  := Entry.record_mem (mem_ofRecords_of_mem_allMembers he)

end Namespace

namespace Library

variable {rs : List Record} {e : Entry}

theorem exists_build_of_mem_namespacesOf {names : List String} {ns : Namespace}
    (h : ns ∈ namespacesOf names rs) :
  ∃ name, ns = Namespace.build (Groups.ofEntries (Entry.ofRecords rs)) name
  := by
  obtain ⟨name, -, rfl⟩ := List.mem_map.1 h
  use name

/-- If no namespaces are chosen, there is one for each key. -/
theorem mem_namespacesOf_nil {ns : Namespace} :
  ns ∈ namespacesOf [] rs
    ↔ ∃ e ∈ Entry.ofRecords rs,
      ns = Namespace.build (Groups.ofEntries (Entry.ofRecords rs)) e.key
  := by
  rw [namespacesOf, List.isEmpty_nil, if_pos rfl, Groups.ofEntries, map_fst_groupBy, List.mem_map]
  constructor
  · rintro ⟨k, hk, rfl⟩
    obtain ⟨e, he, rfl⟩ := mem_keysOf.1 hk
    exact ⟨e, he, rfl⟩
  · rintro ⟨e, he, rfl⟩
    exact ⟨e.key, mem_keysOf.2 ⟨e, he, rfl⟩, rfl⟩

/-- A function with the name of a given one is shown in the namespace that the given one is
grouped under. -/
theorem exists_mem_allMembers (hrs : WellNamed rs) (he : e ∈ Entry.ofRecords rs) :
  ∃ ns ∈ namespacesOf [] rs, ∃ e' ∈ ns.allMembers,
    e' ∈ Entry.ofRecords rs ∧ e'.record.name.name = e.record.name.name
  := by
  refine ⟨_, mem_namespacesOf_nil.2 ⟨e, he, rfl⟩, ?_⟩
  simp only [Namespace.mem_allMembers hrs]
  by_cases hkey : e.key = e.record.name.name
  · have hsome : ((Entry.ofRecords rs).find? fun e' => e'.record.name.name == e.key).isSome := by
      rw [List.find?_isSome]
      exact ⟨e, he, beq_iff_eq.2 hkey.symm⟩
    obtain ⟨e', hfind⟩ := Option.isSome_iff_exists.1 hsome
    have hname := List.find?_some hfind
    exact ⟨e', Or.inl hfind, List.mem_of_find?_eq_some hfind, (eq_of_beq hname).trans hkey⟩
  · exact ⟨e, Or.inr ⟨he, rfl, Ne.symm hkey⟩, he, rfl⟩

/-- A function is shown in some namespace exactly if its name has a separator or no function before
it has the same name. -/
theorem shown_iff_first_or_qualified (hrs : WellNamed rs) (he : e ∈ Entry.ofRecords rs) :
  (∃ ns ∈ namespacesOf [] rs, e ∈ ns.allMembers)
    ↔ (QualifiedName.IsSegment e.record.name.name.toList →
      ∀ e' ∈ Entry.ofRecords rs, e'.record.name.name = e.record.name.name → e.place ≤ e'.place)
  := by
  constructor
  · rintro ⟨ns, hns, hmem⟩ hseg e' he' hname
    obtain ⟨d, -, rfl⟩ := mem_namespacesOf_nil.1 hns
    rcases (Namespace.mem_allMembers hrs).1 hmem with hfind | ⟨-, hkey, hne⟩
    · obtain ⟨-, hd, hle⟩ := (Entry.find?_eq_some_iff (Entry.pairwise_place rs)).1 hfind
      apply hle e' he'
      rw [hname]
      apply hd
    · rw [← hkey, (Entry.key_eq_name_iff hrs he).2 hseg] at hne
      exact absurd rfl hne
  · intro hfirst
    refine ⟨_, mem_namespacesOf_nil.2 ⟨e, he, rfl⟩, ?_⟩
    rw [Namespace.mem_allMembers hrs]
    by_cases hkey : e.key = e.record.name.name
    · left
      have hseg := (Entry.key_eq_name_iff hrs he).1 hkey
      rw [Entry.find?_eq_some_iff (Entry.pairwise_place rs), hkey]
      use he, beq_self_eq_true _
      intro e' he' hname
      apply hfirst hseg e' he' (eq_of_beq hname)
    · right
      exact ⟨he, rfl, Ne.symm hkey⟩

/-- A record of which only the name is known. -/
def namedRecord (name : String) : Record :=
  { (default : Record) with name := QualifiedName.parse name }

theorem wellNamed_namedRecord (names : List String) :
  WellNamed (names.map namedRecord)
  := by
  intro r hr
  obtain ⟨name, -, rfl⟩ := List.mem_map.1 hr
  rfl

theorem shown_iff_first_or_qualified_repeated :
  WellNamed (["Foo.bar", "foo", "Foo.bar", "foo"].map namedRecord)
    ∧ (∃ ns ∈ namespacesOf [] (["Foo.bar", "foo", "Foo.bar", "foo"].map namedRecord),
      ⟨2, namedRecord "Foo.bar"⟩ ∈ ns.allMembers)
  := by
  have hrs := wellNamed_namedRecord ["Foo.bar", "foo", "Foo.bar", "foo"]
  use hrs
  apply (shown_iff_first_or_qualified hrs (Entry.mem_ofRecords.2 rfl)).2
  intro hseg
  exact absurd (hseg '.' (by decide)) (by decide)

/-- The second of two functions with a name that has no separator is not shown. -/
theorem not_shown_repeated :
  WellNamed (["foo", "foo"].map namedRecord)
    ∧ ⟨1, namedRecord "foo"⟩ ∈ Entry.ofRecords (["foo", "foo"].map namedRecord)
    ∧ ¬ ∃ ns ∈ namespacesOf [] (["foo", "foo"].map namedRecord),
      ⟨1, namedRecord "foo"⟩ ∈ ns.allMembers
  := by
  have hrs := wellNamed_namedRecord ["foo", "foo"]
  have hsecond : ⟨1, namedRecord "foo"⟩ ∈ Entry.ofRecords (["foo", "foo"].map namedRecord) :=
    Entry.mem_ofRecords.2 rfl
  use hrs, hsecond
  rintro ⟨ns, hns, hmem⟩
  obtain ⟨d, -, rfl⟩ := mem_namespacesOf_nil.1 hns
  rcases (Namespace.mem_allMembers hrs).1 hmem with hfind | ⟨-, hkey, hne⟩
  · obtain ⟨-, hname, hle⟩ := (Entry.find?_eq_some_iff (Entry.pairwise_place _)).1 hfind
    have hfirst := hle ⟨0, namedRecord "foo"⟩ (Entry.mem_ofRecords.2 rfl) hname
    exact absurd hfirst (by decide)
  · apply hne
    rw [← hkey, (Entry.key_eq_name_iff hrs hsecond).2 (by decide)]

end Library

end DocPages

import DocPages.Benchmark
import DocPages.Proofs.Grouping
import DocPages.Proofs.Pair
import DocPages.Proofs.Text.Search
import Mathlib.Data.List.Forall2
import Mathlib.Data.List.Nodup

/-!
# Cases and the benchmarks they make up

Each pair of a `benchmarks` tag is one case, and its number is the place of the pair.  Cases are
spread over benchmarks by name, but in the order of their numbers they are the pairs again.  The
comment of a pair is trimmed, so no label is empty: a comment with a dash in it is the name, the dash
and the label, and any other comment is the name.
-/

namespace DocPages

/-! ### Cases -/

namespace BenchmarkCase

/-- What divides the name of a case from its label. -/
def dash : List Char := [' ', '-', ' ']

/-- A case is that of a pair. -/
structure IsOf (c : BenchmarkCase) (p : Pair) : Prop where
  code_eq : c.code = p.left
  of_dash : dash <:+: p.right.toList →
    c.name ++ " - " ++ c.label = p.right ∧ ¬ dash <:+: c.name.toList ∧ c.label ≠ ""
  of_not_dash : ¬ dash <:+: p.right.toList → c.name = p.right ∧ c.label = defaultLabel

theorem number_ofPair (n : Nat) (p : Pair) :
  (ofPair n p).number = n
  := by
  unfold ofPair
  split <;> rfl

theorem code_ofPair (n : Nat) (p : Pair) :
  (ofPair n p).code = p.left
  := by
  unfold ofPair
  split <;> rfl

/-- A comment without a dash is the name of its case. -/
theorem ofPair_of_not_dash (n : Nat) {p : Pair} (h : ¬ dash <:+: p.right.toList) :
  ofPair n p = ⟨n, p.left, p.right, defaultLabel⟩
  := by
  have hdivide : divide p.right " - " = [p.right] := by
    have hnone : Text.splitFirst? " - ".toList p.right.toList = none :=
      Text.splitFirst?_eq_none_iff.2 h
    rw [divide, hnone]
  rw [ofPair, hdivide]

/-- A trimmed comment is cut at its first dash, and something follows it. -/
theorem exists_ofPair_of_dash (n : Nat) {p : Pair} (hp : Text.Trimmed p.right.toList)
    (h : dash <:+: p.right.toList) :
  ∃ name label, ofPair n p = ⟨n, p.left, String.ofList name, String.ofList label⟩
    ∧ p.right.toList = name ++ dash ++ label ∧ ¬ dash <:+: name ∧ label ≠ []
  := by
  cases hsplit : Text.splitFirst? dash p.right.toList with
  | none => exact absurd h (Text.splitFirst?_eq_none_iff.1 hsplit)
  | some parts =>
    obtain ⟨name, label⟩ := parts
    have hright := Text.eq_of_splitFirst? hsplit
    have hlabel : label ≠ [] := by
      rintro rfl
      -- The comment would end with the blank of the dash.
      have hblank := hp.last ' ' (by simp [hright, dash])
      cases hblank
    have hdivide : divide p.right " - " = [String.ofList name, String.ofList label] := by
      have hsplit' : Text.splitFirst? " - ".toList p.right.toList = some (name, label) := hsplit
      rw [divide, hsplit']
    have hempty : (String.ofList label).isEmpty = false := by
      rw [Bool.eq_false_iff, ne_eq, String.isEmpty_iff, String.ofList_eq_empty_iff]
      exact hlabel
    use name, label
    constructor
    · rw [ofPair, hdivide]
      simp [hempty]
    · exact ⟨hright, Text.not_isInfix_of_splitFirst? (by decide) hsplit, hlabel⟩

theorem isOf_ofPair (n : Nat) {p : Pair} (hp : Text.Trimmed p.right.toList) :
  (ofPair n p).IsOf p
  := by
  constructor
  · apply code_ofPair
  · intro h
    obtain ⟨name, label, hcase, hright, hname, hlabel⟩ := exists_ofPair_of_dash n hp h
    rw [hcase]
    refine ⟨?_, ?_, ?_⟩
    · rw [← String.toList_inj, hright]
      simp [dash]
    · rwa [String.toList_ofList]
    · rwa [ne_eq, String.ofList_eq_empty_iff]
  · intro h
    rw [ofPair_of_not_dash n h]
    exact ⟨rfl, rfl⟩

/-- The cases of some pairs, numbered by their places. -/
def ofPairs (ps : List Pair) : List BenchmarkCase :=
  ps.zipIdx.map fun (p, i) => ofPair (i + 1) p

theorem map_number_ofPairs (ps : List Pair) :
  (ofPairs ps).map number = List.range' 1 ps.length
  := by
  rw [ofPairs, List.map_map, ← map_succ_zipIdx ps]
  apply List.map_congr_left
  rintro ⟨p, i⟩ _
  apply number_ofPair

theorem pairwise_ofPairs (ps : List Pair) :
  (ofPairs ps).Pairwise fun c d => c.number < d.number
  := by
  rw [← List.pairwise_map, map_number_ofPairs]
  exact List.pairwise_lt_range'

theorem forall₂_isOf_ofPairs {ps : List Pair} (h : ∀ p ∈ ps, Text.Trimmed p.right.toList) :
  List.Forall₂ IsOf (ofPairs ps) ps
  := by
  have hplaces : List.Forall₂ IsOf (ofPairs ps) (ps.zipIdx.map Prod.fst) := by
    rw [ofPairs, List.forall₂_map_left_iff, List.forall₂_map_right_iff, List.forall₂_same]
    rintro ⟨p, i⟩ hp
    apply isOf_ofPair _ (h p (List.fst_mem_of_mem_zipIdx hp))
  rwa [List.zipIdx_map_fst] at hplaces

/-- Cases that are numbered in their order can be brought back into it. -/
theorem mergeSort_number {cs ds : List BenchmarkCase} (hp : ds.Perm cs)
    (hcs : cs.Pairwise fun c d => c.number < d.number) :
  (ds.mergeSort fun c d => c.number ≤ d.number) = cs
  := by
  have hnodup : (cs.map number).Nodup := List.pairwise_map.2 (hcs.imp Nat.ne_of_lt)
  have hperm := (List.mergeSort_perm ds fun c d => c.number ≤ d.number).trans hp
  apply hperm.eq_of_pairwise
  · intro c d hc hd hcd hdc
    apply List.inj_on_of_nodup_map hnodup (hperm.mem_iff.1 hc) hd
    apply Nat.le_antisymm (of_decide_eq_true hcd) (of_decide_eq_true hdc)
  · apply List.pairwise_mergeSort
    · intro a b c
      simp only [decide_eq_true_eq]
      apply Nat.le_trans
    · intro a b
      simp only [Bool.or_eq_true, decide_eq_true_eq]
      apply Nat.le_total
  · apply hcs.imp
    intro c d hlt
    apply decide_eq_true (Nat.le_of_lt hlt)

end BenchmarkCase

/-! ### Benchmarks -/

namespace BenchmarkList

/-- The cases of all benchmarks in the order of their numbers. -/
def casesInOrder (b : BenchmarkList) : List BenchmarkCase :=
  (b.items.flatMap Benchmark.cases).mergeSort fun c d => c.number ≤ d.number

/-- What it is to arrange the cases of some pairs into benchmarks by name. -/
structure Arranges (ps : List Pair) (b : BenchmarkList) : Prop where
  /-- There is one case for each pair, and its number is the place of the pair. -/
  map_number_cases : b.casesInOrder.map BenchmarkCase.number = List.range' 1 ps.length
  isOf : List.Forall₂ BenchmarkCase.IsOf b.casesInOrder ps
  /-- Benchmarks are numbered in the order in which their names first appear. -/
  map_number_items : b.items.map Benchmark.number = List.range' 1 b.items.length
  nodup_names : (b.items.map Benchmark.name).Nodup
  first_appearance : (b.items.map Benchmark.name).Pairwise fun n n' =>
    (b.casesInOrder.map BenchmarkCase.name).idxOf n < (b.casesInOrder.map BenchmarkCase.name).idxOf n'
  /-- Each of them has the cases of its name, in the order of their numbers. -/
  cases_ne_nil : ∀ x ∈ b.items, x.cases ≠ []
  mem_cases_iff : ∀ x ∈ b.items, ∀ c, c ∈ x.cases ↔ c ∈ b.casesInOrder ∧ c.name = x.name
  cases_increase : ∀ x ∈ b.items, x.cases.Pairwise fun c d => c.number < d.number
  existsUnique : ∀ c ∈ b.casesInOrder, ∃! x, x ∈ b.items ∧ c ∈ x.cases
  /-- The cases that are shown are those of the first benchmark. -/
  firstCases_eq : b.firstCases = (b.items.head?.map Benchmark.cases).getD []

variable (doc : Doclet)

/-- The pairs of the benchmarks of a doclet. -/
def pairsOf : List Pair :=
  (PairBlock.ofText (doc.tagText "benchmarks")).pairs

/-- The cases of the benchmarks of a doclet. -/
def casesOf : List BenchmarkCase :=
  BenchmarkCase.ofPairs (pairsOf doc)

theorem map_number_items :
  (ofDoclet doc).items.map Benchmark.number = List.range' 1 (ofDoclet doc).items.length
  := by
  rw [ofDoclet, List.length_map, List.length_zipIdx, ← map_succ_zipIdx, List.map_map]
  rfl

/-- The benchmarks are the groups of cases with one name. -/
theorem map_items :
  ((ofDoclet doc).items.map fun x => (x.name, x.cases)) = groupBy BenchmarkCase.name (casesOf doc)
  := by
  rw [ofDoclet, List.map_map]
  apply List.zipIdx_map_fst

theorem casesInOrder_eq :
  (ofDoclet doc).casesInOrder = casesOf doc
  := by
  apply BenchmarkCase.mergeSort_number _ (BenchmarkCase.pairwise_ofPairs _)
  have hperm := flatMap_groupBy_perm BenchmarkCase.name (casesOf doc)
  rwa [← map_items, List.flatMap_map] at hperm

theorem map_name_items :
  (ofDoclet doc).items.map Benchmark.name
    = (groupBy BenchmarkCase.name (casesOf doc)).map Prod.fst
  := by
  rw [← map_items, List.map_map]
  rfl

theorem nodup_map_name_items :
  ((ofDoclet doc).items.map Benchmark.name).Nodup
  := by
  rw [map_name_items]
  apply (grouped_groupBy _ _).nodup_keys

variable {doc}

theorem trimmed_of_mem_pairsOf {p : Pair} (hp : p ∈ pairsOf doc) :
  Text.Trimmed p.right.toList
  := by
  obtain ⟨line, -, hline⟩ := List.mem_filterMap.1 hp
  apply (Pair.trimmed_of_parse? hline).2

theorem mem_groupBy_of_mem_items {x : Benchmark} (hx : x ∈ (ofDoclet doc).items) :
  (x.name, x.cases) ∈ groupBy BenchmarkCase.name (casesOf doc)
  := by
  rw [← map_items]
  apply List.mem_map_of_mem hx

/-- The cases of a benchmark are those of its name. -/
theorem cases_eq_filter {x : Benchmark} (hx : x ∈ (ofDoclet doc).items) :
  x.cases = (casesOf doc).filter fun c => c.name == x.name
  := (grouped_groupBy _ _).group_eq _ (mem_groupBy_of_mem_items hx)

theorem cases_ne_nil {x : Benchmark} (hx : x ∈ (ofDoclet doc).items) :
  x.cases ≠ []
  := by
  obtain ⟨c, hc, hname⟩ := ((grouped_groupBy BenchmarkCase.name (casesOf doc)).mem_keys x.name).1
    (List.mem_map_of_mem (mem_groupBy_of_mem_items hx))
  rw [cases_eq_filter hx]
  apply List.ne_nil_of_mem (a := c)
  rw [List.mem_filter, beq_iff_eq]
  exact ⟨hc, hname⟩

/-- Each case is in one benchmark. -/
theorem existsUnique_item {c : BenchmarkCase} (hc : c ∈ casesOf doc) :
  ∃! x, x ∈ (ofDoclet doc).items ∧ c ∈ x.cases
  := by
  obtain ⟨g, ⟨hg, hmem⟩, hunique⟩ := (grouped_groupBy BenchmarkCase.name _).existsUnique c hc
  rw [← map_items] at hg
  obtain ⟨x, hx, rfl⟩ := List.mem_map.1 hg
  use x, ⟨hx, hmem⟩
  rintro y ⟨hy, hmem'⟩
  have hsame := hunique (y.name, y.cases) ⟨mem_groupBy_of_mem_items hy, hmem'⟩
  apply List.inj_on_of_nodup_map (nodup_map_name_items doc) hy hx (congrArg Prod.fst hsame)

/-- The pairs of the first `benchmarks` tag are arranged into benchmarks. -/
theorem arranges_ofDoclet (doc : Doclet) :
  doc.FirstSays "benchmarks" (doc.tagText "benchmarks")
    ∧ Arranges (PairBlock.ofText (doc.tagText "benchmarks")).pairs (ofDoclet doc)
  := by
  have hordered := casesInOrder_eq doc
  use doc.firstSays_tagText "benchmarks"
  constructor
  · rw [hordered]
    apply BenchmarkCase.map_number_ofPairs
  · rw [hordered]
    apply BenchmarkCase.forall₂_isOf_ofPairs
    intro p
    apply trimmed_of_mem_pairsOf
  · apply map_number_items
  · apply nodup_map_name_items
  · rw [hordered, map_name_items]
    apply (grouped_groupBy _ _).first_appearance
  · intro x
    apply cases_ne_nil
  · intro x hx c
    rw [hordered, cases_eq_filter hx, List.mem_filter, beq_iff_eq]
  · intro x hx
    rw [cases_eq_filter hx]
    apply (BenchmarkCase.pairwise_ofPairs _).filter
  · intro c
    rw [hordered]
    apply existsUnique_item
  · rw [firstCases]
    cases (ofDoclet doc).items <;> rfl

end BenchmarkList

end DocPages

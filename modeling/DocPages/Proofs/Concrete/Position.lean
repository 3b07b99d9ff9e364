import DocPages.Concrete.Basic
import Mathlib.Data.List.Lex
import Mathlib.Tactic.Common

/-!
# Positions in concrete trees

A position is the list of the numbers of the children on the way from the root to a node.  In the
lexicographic order of positions a node stands before those below it, and these before its later
siblings, as in the document.  `Concrete.outermost` lists the nodes that pass a test and have no node
above them that does.  The list is in the order of the document, and the first node in it is the
first of all nodes that pass the test.
-/

namespace DocPages.Concrete

/-- What holds of a tree whenever it holds of the children of its root holds of every tree. -/
@[elab_as_elim]
theorem byChildren {P : Concrete → Prop} (node : ∀ l cs, (∀ c ∈ cs, P c) → P (.node l cs))
    (c : Concrete) :
  P c
  := by
  apply @Concrete.rec P fun cs => ∀ c ∈ cs, P c
  · apply node
  · intro c hc
    cases hc
  · intro c cs hc hcs
    apply List.forall_mem_cons.2 ⟨hc, hcs⟩

/-! ### Nodes at positions -/

/-- A node stands before those below it. -/
theorem le_of_isPrefix {p q : List Nat} (h : p <+: q) :
  p ≤ q
  := by
  induction p generalizing q with
  | nil => apply not_lt.1 (List.not_lt_nil q)
  | cons i p ih =>
    obtain ⟨r, rfl, hr⟩ := List.cons_prefix_iff.1 h
    apply List.cons_le_cons i (ih hr)

/-- The label of the node at a position. -/
def labelAt? : Concrete → List Nat → Option Label
  | c, [] => some c.label
  | c, i :: p => c.children[i]?.bind fun d => d.labelAt? p

/-- The node at position `p` passes a test, and no node above it does. -/
structure IsOutermost (test : Label → Bool) (c : Concrete) (p : List Nat) (l : Label) : Prop where
  label : c.labelAt? p = some l
  passes : test l
  above : ∀ q, q <+: p → q ≠ p → ∀ m, c.labelAt? q = some m → test m = false

/-- The node at position `p` passes a test, and all nodes that do stand at `p` or after it. -/
structure IsFirst (test : Label → Bool) (c : Concrete) (p : List Nat) (l : Label) : Prop where
  label : c.labelAt? p = some l
  passes : test l
  le : ∀ q m, c.labelAt? q = some m → test m → p ≤ q

variable {test : Label → Bool} {c : Concrete} {l : Label}

theorem isOutermost_root (h : test c.label) :
  IsOutermost test c [] c.label
  where
  label := rfl
  passes := h
  above _ hq hne := absurd (List.prefix_nil.1 hq) hne

/-- Below a node that fails the test, the outermost nodes are those of its children. -/
theorem isOutermost_cons_iff (h : test c.label = false) {i : Nat} {p : List Nat} :
  IsOutermost test c (i :: p) l ↔ ∃ d, c.children[i]? = some d ∧ IsOutermost test d p l
  := by
  constructor
  · intro ho
    obtain ⟨d, hd, hl⟩ := Option.bind_eq_some_iff.1 ho.label
    use d, hd
    constructor
    · apply hl
    · apply ho.passes
    · intro q hq hne m hm
      apply ho.above (i :: q) (List.cons_prefix_cons.2 ⟨rfl, hq⟩) (by simpa using hne)
      rw [labelAt?, hd, Option.bind_some, hm]
  · rintro ⟨d, hd, ho⟩
    constructor
    · rw [labelAt?, hd, Option.bind_some, ho.label]
    · apply ho.passes
    · intro q hq hne m hm
      rcases List.prefix_cons_iff.1 hq with rfl | ⟨r, rfl, hr⟩
      · cases hm
        apply h
      · rw [labelAt?, hd, Option.bind_some] at hm
        apply ho.above r hr (by simpa using hne) m hm

/-- A node that passes the test is outermost or below a node that is. -/
theorem exists_isOutermost {q : List Nat} {m : Label} (hq : c.labelAt? q = some m) (hm : test m) :
  ∃ p l, p <+: q ∧ IsOutermost test c p l
  := by
  induction q generalizing c with
  | nil =>
    cases hq
    exact ⟨[], c.label, List.nil_prefix, isOutermost_root hm⟩
  | cons i q ih =>
    cases hc : test c.label with
    | true => exact ⟨[], c.label, List.nil_prefix, isOutermost_root hc⟩
    | false =>
      obtain ⟨d, hd, hq⟩ := Option.bind_eq_some_iff.1 hq
      obtain ⟨p, l, hp, ho⟩ := ih hq
      exact ⟨i :: p, l, List.cons_prefix_cons.2 ⟨rfl, hp⟩, (isOutermost_cons_iff hc).2 ⟨d, hd, ho⟩⟩

/-! ### The list of the outermost nodes -/

mutual

/-- The outermost nodes of a tree that pass a test, with their positions. -/
def outermost (test : Label → Bool) : Concrete → List (List Nat × Label)
  | node l cs => if test l then [([], l)] else outermostIn test 0 cs
termination_by structural c => c

/-- The outermost nodes of some trees that pass a test; the trees are the children from number `i`
on. -/
def outermostIn (test : Label → Bool) : Nat → List Concrete → List (List Nat × Label)
  | _, [] => []
  | i, c :: cs =>
    (outermost test c).map (fun n => (i :: n.1, n.2)) ++ outermostIn test (i + 1) cs
termination_by structural _ cs => cs

end

theorem mem_outermostIn {i : Nat} {cs : List Concrete} {q : List Nat} :
  (q, l) ∈ outermostIn test i cs
    ↔ ∃ j p c, q = (i + j) :: p ∧ cs[j]? = some c ∧ (p, l) ∈ outermost test c
  := by
  induction cs generalizing i with
  | nil => simp [outermostIn]
  | cons c cs ih =>
    rw [outermostIn, List.mem_append, List.mem_map, ih]
    constructor
    · rintro (⟨⟨p, m⟩, hmem, he⟩ | ⟨j, p, d, rfl, hd, hmem⟩)
      · cases he
        exact ⟨0, p, c, rfl, rfl, hmem⟩
      · exact ⟨j + 1, p, d, by rw [Nat.add_right_comm, Nat.add_assoc], hd, hmem⟩
    · rintro ⟨j, p, d, rfl, hd, hmem⟩
      cases j with
      | zero =>
        cases hd
        left
        exact ⟨(p, l), hmem, rfl⟩
      | succ j =>
        right
        exact ⟨j, p, d, by rw [Nat.add_right_comm, Nat.add_assoc], hd, hmem⟩

theorem mem_outermost {p : List Nat} :
  (p, l) ∈ outermost test c ↔ IsOutermost test c p l
  := by
  induction c using byChildren generalizing p with
  | node l₀ cs ih =>
    rw [outermost]
    split
    · rename_i h₀
      constructor
      · intro hmem
        cases List.mem_singleton.1 hmem
        apply isOutermost_root h₀
      · intro ho
        cases p with
        | nil =>
          cases ho.label
          apply List.mem_singleton_self
        | cons i p =>
          have hfalse := ho.above [] List.nil_prefix (by simp) l₀ rfl
          rw [h₀] at hfalse
          cases hfalse
    · rename_i h₀
      rw [Bool.not_eq_true] at h₀
      rw [mem_outermostIn]
      constructor
      · rintro ⟨j, p, c, rfl, hc, hmem⟩
        rw [Nat.zero_add, isOutermost_cons_iff h₀]
        exact ⟨c, hc, (ih c (List.mem_of_getElem? hc)).1 hmem⟩
      · intro ho
        cases p with
        | nil =>
          have hpass := ho.passes
          cases ho.label
          exact absurd (h₀.symm.trans hpass) Bool.false_ne_true
        | cons i p =>
          obtain ⟨c, hc, ho⟩ := (isOutermost_cons_iff h₀).1 ho
          exact ⟨i, p, c, by rw [Nat.zero_add], hc, (ih c (List.mem_of_getElem? hc)).2 ho⟩

theorem pairwise_outermostIn {cs : List Concrete}
    (h : ∀ c ∈ cs, (outermost test c).Pairwise fun a b => a.1 < b.1) (i : Nat) :
  (outermostIn test i cs).Pairwise fun a b => a.1 < b.1
  := by
  induction cs generalizing i with
  | nil => apply List.Pairwise.nil
  | cons c cs ih =>
    rw [List.forall_mem_cons] at h
    rw [outermostIn, List.pairwise_append, List.pairwise_map]
    refine ⟨?_, ih h.2 (i + 1), ?_⟩
    · apply h.1.imp
      intro a b hab
      apply List.cons_lt_cons_iff.2 (Or.inr ⟨rfl, hab⟩)
    · intro a ha b hb
      obtain ⟨n, -, rfl⟩ := List.mem_map.1 ha
      obtain ⟨j, p, d, he, -, -⟩ := mem_outermostIn.1 hb
      rw [he]
      apply List.cons_lt_cons_iff.2 (Or.inl _)
      omega

/-- The outermost nodes are listed in the order of the document. -/
theorem pairwise_outermost (test : Label → Bool) (c : Concrete) :
  (outermost test c).Pairwise fun a b => a.1 < b.1
  := by
  induction c using byChildren with
  | node l cs ih =>
    rw [outermost]
    split
    · apply List.pairwise_singleton
    · apply pairwise_outermostIn ih

/-- The first of the outermost nodes is the first of all nodes that pass the test. -/
theorem isFirst_of_head? {p : List Nat} (h : (outermost test c).head? = some (p, l)) :
  IsFirst test c p l
  := by
  obtain ⟨ns, hns⟩ := List.head?_eq_some_iff.1 h
  have ho : IsOutermost test c p l := by
    rw [← mem_outermost, hns]
    apply List.mem_cons_self
  have hsorted := pairwise_outermost test c
  rw [hns, List.pairwise_cons] at hsorted
  constructor
  · apply ho.label
  · apply ho.passes
  · intro q m hq hm
    obtain ⟨r, n, hr, hon⟩ := exists_isOutermost hq hm
    have hmem := mem_outermost.2 hon
    rw [hns] at hmem
    have hle : p ≤ r := by
      rcases List.mem_cons.1 hmem with he | hmem
      · cases he
        apply le_refl
      · apply le_of_lt (hsorted.1 _ hmem)
    apply hle.trans (le_of_isPrefix hr)

theorem outermost_eq_nil_iff :
  outermost test c = [] ↔ ∀ q m, c.labelAt? q = some m → test m = false
  := by
  constructor
  · intro hnil q m hq
    cases hm : test m with
    | false => rfl
    | true =>
      obtain ⟨p, l, -, ho⟩ := exists_isOutermost hq hm
      rw [← mem_outermost, hnil] at ho
      cases ho
  · intro hnone
    rw [List.eq_nil_iff_forall_not_mem]
    rintro ⟨p, l⟩ hmem
    have ho := mem_outermost.1 hmem
    exact absurd ((hnone p l ho.label).symm.trans ho.passes) Bool.false_ne_true

end DocPages.Concrete

import DocPages.Tree.Walk
import Mathlib.Data.List.Perm.Subperm
import Mathlib.Tactic.Common

/-!
# Forests and their preorder

A tree is a `Forest` below some roots if every place that is reached from the roots is in the tree
and listed once, among the roots or among the children of one place.  Below the roots of a forest
there is nothing endless, so the places that are reached stand in a `Preorder`: each of them once,
before its children, and children in order.
-/

namespace DocPages.Tree

/-! ### Places that are reached -/

/-- A walk from `hs` comes to a place. -/
inductive Reaches (t : Tree) (hs : List Handle) : Handle → Prop where
  | start {h : Handle} :
      h ∈ hs → Reaches t hs h
  | child {p h : Handle} :
      Reaches t hs p → h ∈ (t.children p).nodes → Reaches t hs h

/-- `t.Below a k h`: the place `h` lies `k` steps below `a`. -/
inductive Below (t : Tree) (a : Handle) : Nat → Handle → Prop where
  | self :
      Below t a 0 a
  | child {k : Nat} {p h : Handle} :
      Below t a k p → h ∈ (t.children p).nodes → Below t a (k + 1) h

variable {t : Tree} {roots hs : List Handle}

theorem reaches_iff {h : Handle} :
  t.Reaches hs h ↔ ∃ a ∈ hs, ∃ k, t.Below a k h
  := by
  constructor
  · intro hr
    induction hr with
    | start ha => exact ⟨_, ha, 0, Below.self⟩
    | child _ hc ih =>
      obtain ⟨a, ha, k, hb⟩ := ih
      exact ⟨a, ha, k + 1, hb.child hc⟩
  · rintro ⟨a, ha, k, hb⟩
    induction hb with
    | self => apply Reaches.start ha
    | child _ hc ih => apply ih.child hc

theorem Below.trans {a b h : Handle} {j k : Nat} (hab : t.Below a j b) (hbh : t.Below b k h) :
  t.Below a (j + k) h
  := by
  induction hbh with
  | self => apply hab
  | child _ hc ih => apply ih.child hc

theorem Below.reaches {a h : Handle} {k : Nat} (hb : t.Below a k h) (ha : t.Reaches hs a) :
  t.Reaches hs h
  := by
  induction hb with
  | self => apply ha
  | child _ hc ih => apply ih.child hc

/-! ### Forests -/

/-- The places reached from the roots are places of the tree, and each of them is listed once: among
the roots, or among the children of one of them. -/
structure Forest (t : Tree) (roots : List Handle) : Prop where
  lt_size {h : Handle} : t.Reaches roots h → h < t.size
  nodup_roots : roots.Nodup
  nodup_children {p : Handle} : t.Reaches roots p → (t.children p).nodes.Nodup
  not_mem_roots {p h : Handle} : t.Reaches roots p → h ∈ (t.children p).nodes → h ∉ roots
  parent_unique {p q h : Handle} : t.Reaches roots p → t.Reaches roots q →
    h ∈ (t.children p).nodes → h ∈ (t.children q).nodes → p = q

namespace Forest

/-- Of two places above a place, the nearer one is below the other one. -/
theorem below_of_below (hf : t.Forest roots) {a b h : Handle} {j k : Nat}
    (ha : t.Reaches roots a) (hb : t.Reaches roots b) (hah : t.Below a k h)
    (hbh : t.Below b (k + j) h) :
  t.Below b j a
  := by
  induction hah with
  | self =>
    rw [Nat.zero_add] at hbh
    apply hbh
  | @child k p h hp hc ih =>
    rw [Nat.add_right_comm] at hbh
    cases hbh with
    | child hq hc' =>
      rw [← hf.parent_unique (hp.reaches ha) (hq.reaches hb) hc hc'] at hq
      apply ih hq

/-- A root lies below no other place. -/
theorem below_root (hf : t.Forest roots) {a r : Handle} {k : Nat} (ha : t.Reaches roots a)
    (hr : r ∈ roots) (hb : t.Below a k r) :
  k = 0
  := by
  cases hb with
  | self => rfl
  | child hp hc => exact absurd hr (hf.not_mem_roots (hp.reaches ha) hc)

/-- A place lies at one depth below the roots. -/
theorem depth_unique (hf : t.Forest roots) {r s h : Handle} {j k : Nat} (hr : r ∈ roots)
    (hs : s ∈ roots) (hrh : t.Below r j h) (hsh : t.Below s k h) :
  j = k
  := by
  have hle : ∀ {r s j k}, r ∈ roots → s ∈ roots → t.Below r j h → t.Below s k h → j ≤ k →
      k - j = 0 := by
    intro r s j k hr hs hrh hsh hjk
    rw [← Nat.add_sub_cancel' hjk] at hsh
    apply hf.below_root (.start hs) hr
    apply hf.below_of_below (.start hr) (.start hs) hrh hsh
  rcases Nat.le_total j k with hjk | hkj
  · have := hle hr hs hrh hsh hjk
    omega
  · have := hle hs hr hsh hrh hkj
    omega

/-- The places on the way from a root to a place are one more than its depth. -/
theorem exists_path (hf : t.Forest roots) {r h : Handle} {k : Nat} (hr : r ∈ roots)
    (hb : t.Below r k h) :
  ∃ path : List Handle, path.length = k + 1 ∧ path.Nodup ∧ ∀ x ∈ path, ∃ j ≤ k, t.Below r j x
  := by
  induction hb with
  | self =>
    use [r], rfl, List.nodup_cons.2 ⟨List.not_mem_nil, List.nodup_nil⟩
    intro x hx
    rw [List.mem_singleton.1 hx]
    exact ⟨0, Nat.le_refl 0, Below.self⟩
  | @child k p h hp hc ih =>
    obtain ⟨path, hlen, hnodup, hpath⟩ := ih
    have hb := hp.child hc
    use h :: path, congrArg (· + 1) hlen
    constructor
    · apply List.nodup_cons.2
      constructor
      · intro hmem
        obtain ⟨j, hj, hjb⟩ := hpath h hmem
        have := hf.depth_unique hr hr hjb hb
        omega
      · apply hnodup
    · intro x hx
      rcases List.mem_cons.1 hx with rfl | hx
      · exact ⟨k + 1, Nat.le_refl _, hb⟩
      · obtain ⟨j, hj, hjb⟩ := hpath x hx
        exact ⟨j, Nat.le_succ_of_le hj, hjb⟩

/-- Nothing lies deeper below a root than there are places. -/
theorem depth_lt_size (hf : t.Forest roots) {r h : Handle} {k : Nat} (hr : r ∈ roots)
    (hb : t.Below r k h) :
  k < t.size
  := by
  obtain ⟨path, hlen, hnodup, hpath⟩ := hf.exists_path hr hb
  have hsub : path ⊆ List.range t.size := by
    intro x hx
    obtain ⟨j, _, hj⟩ := hpath x hx
    apply List.mem_range.2
    apply hf.lt_size (hj.reaches (.start hr))
  have hle := (hnodup.subperm hsub).length_le
  rw [hlen, List.length_range] at hle
  apply hle

end Forest

/-! ### Preorder -/

/-- `t.Preorder hs order`: the walk from `hs` that goes through the children of each place before it
goes on to the next place visits `order`. -/
inductive Preorder (t : Tree) : List Handle → List Handle → Prop where
  | nil :
      Preorder t [] []
  | cons {h : Handle} {hs below after : List Handle} :
      Preorder t (t.children h).nodes below → Preorder t hs after →
      Preorder t (h :: hs) (h :: (below ++ after))

/-- In the preorder of a place and others, something is the place, or stands among what is below it,
or after that. -/
theorem before_or_within_or_after {α : Type} {a h : α} {below rest before after : List α}
    (ho : a :: (below ++ rest) = before ++ h :: after) :
  before = [] ∧ a = h ∧ after = below ++ rest
    ∨ (∃ us vs, before = a :: us ∧ below = us ++ h :: vs ∧ after = vs ++ rest)
    ∨ ∃ us, before = a :: (below ++ us) ∧ rest = us ++ h :: after
  := by
  cases before with
  | nil =>
    left
    cases ho
    exact ⟨rfl, rfl, rfl⟩
  | cons b before =>
    right
    rw [List.cons_append, List.cons_eq_cons] at ho
    obtain ⟨rfl, ho⟩ := ho
    rcases List.append_eq_append_iff.1 ho with ⟨us, rfl, hus⟩ | ⟨us, rfl, hus⟩
    · right
      exact ⟨us, rfl, hus⟩
    · cases us with
      | nil =>
        right
        exact ⟨[], by simp, hus.symm⟩
      | cons u us =>
        left
        rw [List.cons_append, List.cons_eq_cons] at hus
        obtain ⟨rfl, rfl⟩ := hus
        exact ⟨before, us, rfl, rfl, rfl⟩

namespace Preorder

variable {order : List Handle}

theorem subset (hp : t.Preorder hs order) :
  hs ⊆ order
  := by
  induction hp with
  | nil => apply List.Subset.refl
  | cons _ _ _ ih =>
    intro x hx
    rcases List.mem_cons.1 hx with rfl | hx
    · apply List.mem_cons_self
    · apply List.mem_cons_of_mem
      apply List.mem_append_right _ (ih hx)

theorem children_subset (hp : t.Preorder hs order) {p : Handle} (hmem : p ∈ order) :
  (t.children p).nodes ⊆ order
  := by
  induction hp with
  | nil => cases hmem
  | cons hbelow _ ih₁ ih₂ =>
    intro x hx
    apply List.mem_cons_of_mem
    rcases List.mem_cons.1 hmem with rfl | hmem
    · apply List.mem_append_left _ (hbelow.subset hx)
    · rcases List.mem_append.1 hmem with hmem | hmem
      · apply List.mem_append_left _ (ih₁ hmem hx)
      · apply List.mem_append_right _ (ih₂ hmem hx)

theorem append {hs' order' : List Handle} (hp : t.Preorder hs order) (hp' : t.Preorder hs' order') :
  t.Preorder (hs ++ hs') (order ++ order')
  := by
  induction hp with
  | nil => apply hp'
  | cons hbelow _ _ ih =>
    rw [List.cons_append, List.cons_append, List.append_assoc]
    apply hbelow.cons ih

/-- The preorder holds the places that are reached. -/
theorem mem_iff (hp : t.Preorder hs order) {h : Handle} :
  h ∈ order ↔ t.Reaches hs h
  := by
  constructor
  · intro hmem
    induction hp with
    | nil => cases hmem
    | @cons a hs _ _ _ _ ih₁ ih₂ =>
      have hstart : t.Reaches (a :: hs) a := .start List.mem_cons_self
      rcases List.mem_cons.1 hmem with rfl | hmem
      · apply hstart
      · rcases List.mem_append.1 hmem with hmem | hmem
        · obtain ⟨b, hb, k, hk⟩ := reaches_iff.1 (ih₁ hmem)
          apply hk.reaches (hstart.child hb)
        · obtain ⟨b, hb, k, hk⟩ := reaches_iff.1 (ih₂ hmem)
          apply hk.reaches (.start (List.mem_cons_of_mem _ hb))
  · intro hr
    induction hr with
    | start hmem => apply hp.subset hmem
    | child _ hc ih => apply hp.children_subset ih hc

/-- A place of the preorder stands among the starting ones, or a place that lists it stands
before it. -/
theorem parent_before (hp : t.Preorder hs order) {before after : List Handle} {h : Handle}
    (ho : order = before ++ h :: after) :
  h ∈ hs ∨ ∃ p ∈ before, h ∈ (t.children p).nodes
  := by
  induction hp generalizing before after with
  | nil => simp at ho
  | cons _ _ ih₁ ih₂ =>
    rcases before_or_within_or_after ho
      with ⟨-, rfl, -⟩ | ⟨us, vs, rfl, hvs, -⟩ | ⟨us, rfl, hus⟩
    · left
      apply List.mem_cons_self
    · right
      rcases ih₁ hvs with hmem | ⟨p, hmem, hc⟩
      · exact ⟨_, List.mem_cons_self, hmem⟩
      · exact ⟨p, List.mem_cons_of_mem _ hmem, hc⟩
    · rcases ih₂ hus with hmem | ⟨p, hmem, hc⟩
      · left
        apply List.mem_cons_of_mem _ hmem
      · right
        use p
        constructor
        · apply List.mem_cons_of_mem
          apply List.mem_append_right _ hmem
        · apply hc

end Preorder

namespace Forest

variable {order : List Handle}

/-- Places at one depth have no place below them in common. -/
theorem start_unique (hf : t.Forest roots) {r s a b h : Handle} {d j k : Nat} (hr : r ∈ roots)
    (hs : s ∈ roots) (ha : t.Below r d a) (hb : t.Below s d b) (hah : t.Below a j h)
    (hbh : t.Below b k h) :
  a = b
  := by
  have hdepth := hf.depth_unique hr hs (ha.trans hah) (hb.trans hbh)
  have hk : k = j + 0 := by omega
  rw [hk] at hbh
  cases hf.below_of_below (ha.reaches (.start hr)) (hb.reaches (.start hs)) hah hbh with
  | self => rfl

/-- Below places at one depth, the preorder holds each place once. -/
theorem nodup_of_depth (hf : t.Forest roots) (hp : t.Preorder hs order) (hnodup : hs.Nodup)
    {d : Nat} (hd : ∀ a ∈ hs, ∃ r ∈ roots, t.Below r d a) :
  order.Nodup
  := by
  induction hp generalizing d with
  | nil => apply List.nodup_nil
  | @cons a hs below after hbelow hafter ih₁ ih₂ =>
    obtain ⟨r, hr, ha⟩ := hd a List.mem_cons_self
    obtain ⟨hnot, hnodup⟩ := List.nodup_cons.1 hnodup
    have hchildren : ∀ b ∈ (t.children a).nodes, ∃ r ∈ roots, t.Below r (d + 1) b :=
      fun b hb => ⟨r, hr, ha.child hb⟩
    have hrest : ∀ b ∈ hs, ∃ r ∈ roots, t.Below r d b :=
      fun b hb => hd b (List.mem_cons_of_mem _ hb)
    have hunder : ∀ x ∈ below, ∃ k, t.Below a (k + 1) x := by
      intro x hx
      obtain ⟨b, hb, k, hk⟩ := reaches_iff.1 (hbelow.mem_iff.1 hx)
      use k
      rw [Nat.add_comm]
      apply (Below.self.child hb).trans hk
    have hbeside : ∀ x ∈ after, ∀ k, ¬ t.Below a k x := by
      intro x hx k hk
      obtain ⟨b, hb, j, hj⟩ := reaches_iff.1 (hafter.mem_iff.1 hx)
      obtain ⟨s, hs, hsb⟩ := hrest b hb
      rw [hf.start_unique hr hs ha hsb hk hj] at hnot
      apply hnot hb
    apply List.nodup_cons.2
    constructor
    · intro hmem
      rcases List.mem_append.1 hmem with hmem | hmem
      · obtain ⟨k, hk⟩ := hunder a hmem
        have := hf.depth_unique hr hr ha (ha.trans hk)
        omega
      · apply hbeside a hmem 0 Below.self
    · apply List.nodup_append.2
      use ih₁ (hf.nodup_children (ha.reaches (.start hr))) hchildren, ih₂ hnodup hrest
      rintro x hx y hy rfl
      obtain ⟨k, hk⟩ := hunder x hx
      apply hbeside x hy (k + 1) hk

/-- The preorder holds each place once. -/
theorem nodup_preorder (hf : t.Forest roots) (hp : t.Preorder roots order) :
  order.Nodup
  := by
  apply hf.nodup_of_depth hp hf.nodup_roots (d := 0)
  intro a ha
  exact ⟨a, ha, Below.self⟩

/-- Below places that lie deep enough there is a preorder. -/
theorem exists_preorder_of_depth (hf : t.Forest roots) (k : Nat) {d : Nat} (hk : t.size ≤ d + k)
    (hd : ∀ a ∈ hs, ∃ r ∈ roots, t.Below r d a) :
  ∃ order, t.Preorder hs order
  := by
  induction k generalizing hs d with
  | zero =>
    cases hs with
    | nil => exact ⟨[], Preorder.nil⟩
    | cons a hs =>
      obtain ⟨r, hr, ha⟩ := hd a List.mem_cons_self
      have := hf.depth_lt_size hr ha
      omega
  | succ k ih =>
    induction hs with
    | nil => exact ⟨[], Preorder.nil⟩
    | cons a hs ihs =>
      obtain ⟨r, hr, ha⟩ := hd a List.mem_cons_self
      obtain ⟨below, hbelow⟩ := ih (d := d + 1) (by omega) fun b hb => ⟨r, hr, ha.child hb⟩
      obtain ⟨after, hafter⟩ := ihs fun b hb => hd b (List.mem_cons_of_mem _ hb)
      exact ⟨_, hbelow.cons hafter⟩

/-- A forest has a preorder. -/
theorem exists_preorder (hf : t.Forest roots) :
  ∃ order, t.Preorder roots order
  := by
  apply hf.exists_preorder_of_depth t.size (d := 0) (by omega)
  intro a ha
  exact ⟨a, ha, Below.self⟩

end Forest

end DocPages.Tree

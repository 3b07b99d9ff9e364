import DocPages.Grouping
import Mathlib.Data.List.Basic
import Mathlib.Data.List.Find
import Mathlib.Data.List.Induction
import Mathlib.Tactic.Common

/-!
# Groups

The group of a key holds the items with that key in the order they had, so every item is in the
group of its key.  To look through all groups for an item is to look through the items, as long as
the items that are looked for share a key.  Groups can also be built by putting one item after the
other into the group of its key, so they come in the order in which their keys first appear.
-/

namespace DocPages

variable {α κ : Type} [BEq κ]

/-- The keys of the groups are the keys of the items. -/
theorem map_fst_groupBy (key : α → κ) (items : List α) :
  (groupBy key items).map Prod.fst = keysOf key items
  := by
  rw [groupBy, List.map_map]
  apply List.map_id'

/-- The groups with one more item: at the end of the group of its key, or in a new group. -/
def put (key : α → κ) (groups : List (κ × List α)) (x : α) : List (κ × List α) :=
  if (groups.map Prod.fst).contains (key x) then
    groups.map fun b => if b.1 == key x then (b.1, b.2 ++ [x]) else b
  else groups ++ [(key x, [x])]

/-- What it is to group items by a key: the groups have the distinct keys, in the order in which they
first appear, and each item is in the group of its key, where it has its place among the items.  To
put one item after the other into the groups gives the same. -/
structure Grouped (key : α → κ) (items : List α) (groups : List (κ × List α)) : Prop where
  mem_keys : ∀ k, k ∈ groups.map Prod.fst ↔ ∃ x ∈ items, key x = k
  nodup_keys : (groups.map Prod.fst).Nodup
  first_appearance : (groups.map Prod.fst).Pairwise fun k k' =>
    (items.map key).idxOf k < (items.map key).idxOf k'
  group_eq : ∀ b ∈ groups, b.2 = items.filter fun x => key x == b.1
  existsUnique : ∀ x ∈ items, ∃! b, b ∈ groups ∧ x ∈ b.2
  perm : (groups.flatMap Prod.snd).Perm items
  eq_foldl : groups = items.foldl (put key) []

variable [LawfulBEq κ]

theorem mem_keysOf {key : α → κ} {items : List α} {k : κ} :
  k ∈ keysOf key items ↔ ∃ x ∈ items, key x = k
  := by
  rw [keysOf, List.mem_eraseDups, List.mem_map]

theorem lookup_map_pair (f : κ → α) (ks : List κ) (k : κ) :
  (ks.map fun k => (k, f k)).lookup k = if k ∈ ks then some (f k) else none
  := by
  induction ks with
  | nil => rfl
  | cons k' ks ih =>
    rw [List.map_cons, List.lookup_cons]
    by_cases hk : k = k'
    · rw [hk, beq_self_eq_true, if_pos List.mem_cons_self]
    · rw [beq_false_of_ne hk, ih]
      simp only [List.mem_cons, hk, false_or]

theorem nodup_eraseDups :
    ∀ ks : List κ, ks.eraseDups.Nodup
  | [] => List.nodup_nil
  | k :: ks => by
    rw [List.eraseDups_cons, List.nodup_cons, List.mem_eraseDups]
    constructor
    · intro hk
      have hne := (List.mem_filter.1 hk).2
      simp at hne
    · apply nodup_eraseDups
termination_by ks => ks.length
decreasing_by
  apply Nat.lt_succ_of_le (List.length_filter_le _ ks)

theorem nodup_keysOf (key : α → κ) (items : List α) :
  (keysOf key items).Nodup
  := nodup_eraseDups _

/-- The groups: for each key of an item the items that have it, in the order they had. -/
theorem mem_groupBy {key : α → κ} {items : List α} {b : κ × List α} :
  b ∈ groupBy key items
    ↔ (∃ x ∈ items, key x = b.1) ∧ b.2 = items.filter fun x => key x == b.1
  := by
  rw [groupBy, List.mem_map]
  constructor
  · rintro ⟨k, hk, rfl⟩
    exact ⟨mem_keysOf.1 hk, rfl⟩
  · rintro ⟨hk, hb⟩
    exact ⟨b.1, mem_keysOf.2 hk, by rw [← hb]⟩

/-- An item is in one group only. -/
theorem existsUnique_group {key : α → κ} {items : List α} {x : α} (hx : x ∈ items) :
  ∃! b, b ∈ groupBy key items ∧ x ∈ b.2
  := by
  use (key x, items.filter fun y => key y == key x)
  constructor
  · constructor
    · apply mem_groupBy.2
      exact ⟨⟨x, hx, rfl⟩, rfl⟩
    · apply List.mem_filter.2
      exact ⟨hx, beq_self_eq_true _⟩
  · rintro ⟨k, ys⟩ ⟨hb, hmem⟩
    have hys : ys = items.filter fun y => key y == k := (mem_groupBy.1 hb).2
    rw [hys] at hmem ⊢
    rw [← eq_of_beq (List.mem_filter.1 hmem).2]

/-- The items of some keys, one key after the other, are the items that have one of them. -/
theorem flatMap_filter_perm {key : α → κ} {ks : List κ} (hks : ks.Nodup) {items : List α}
    (hitems : ∀ x ∈ items, key x ∈ ks) :
  (ks.flatMap fun k => items.filter fun x => key x == k).Perm items
  := by
  induction ks generalizing items with
  | nil =>
    cases items with
    | nil => apply List.Perm.nil
    | cons x items => cases hitems x List.mem_cons_self
  | cons k ks ih =>
    obtain ⟨hk, hks⟩ := List.nodup_cons.1 hks
    let others := items.filter fun x => !(key x == k)
    have hothers : ∀ x ∈ others, key x ∈ ks := by
      intro x hx
      obtain ⟨hmem, hne⟩ := List.mem_filter.1 hx
      rcases List.mem_cons.1 (hitems x hmem) with he | he
      · simp [he] at hne
      · apply he
    have hsame : ∀ k' ∈ ks, (items.filter fun x => key x == k')
        = others.filter fun x => key x == k' := by
      intro k' hk'
      rw [List.filter_filter]
      apply List.filter_congr
      intro x _
      by_cases he : key x = k'
      · have hne : k' ≠ k := by
          rintro rfl
          exact hk hk'
        simp [he, hne]
      · simp [he]
    rw [List.flatMap_cons, List.flatMap_congr hsame]
    apply ((ih hks hothers).append_left _).trans
    apply List.filter_append_perm

/-- The groups together hold each item as often as there is one. -/
theorem flatMap_groupBy_perm (key : α → κ) (items : List α) :
  ((groupBy key items).flatMap Prod.snd).Perm items
  := by
  rw [groupBy, List.flatMap_map]
  apply flatMap_filter_perm (nodup_keysOf key items)
  intro x hx
  apply mem_keysOf.2
  exact ⟨x, hx, rfl⟩

/-- The group of a key, if it is the key of an item. -/
theorem lookup_groupBy (key : α → κ) (items : List α) (k : κ) :
  (groupBy key items).lookup k
    = if k ∈ keysOf key items then some (items.filter fun x => key x == k) else none
  := by
  rw [groupBy, lookup_map_pair]

theorem lookup_groupBy_eq_some_iff {key : α → κ} {items ys : List α} {k : κ} :
  (groupBy key items).lookup k = some ys ↔ (k, ys) ∈ groupBy key items
  := by
  rw [lookup_groupBy, mem_groupBy]
  split
  · rename_i hk
    rw [Option.some_inj, eq_comm, and_iff_right (mem_keysOf.1 hk)]
  · rename_i hk
    rw [iff_false_left (by simp), not_and]
    intro hk'
    exact absurd (mem_keysOf.2 hk') hk

/-- An item is in the group of its key. -/
theorem mem_group {key : α → κ} {items : List α} {x : α} (hx : x ∈ items) :
  x ∈ ((groupBy key items).lookup (key x)).getD []
  := by
  rw [lookup_groupBy, if_pos (mem_keysOf.2 ⟨x, hx, rfl⟩)]
  apply List.mem_filter.2
  exact ⟨hx, beq_self_eq_true _⟩

/-- The items of a group. -/
theorem mem_of_mem_group {key : α → κ} {items : List α} {k : κ} {x : α}
    (hx : x ∈ ((groupBy key items).lookup k).getD []) :
  x ∈ items ∧ key x = k
  := by
  rw [lookup_groupBy] at hx
  split at hx
  · obtain ⟨hmem, hk⟩ := List.mem_filter.1 hx
    exact ⟨hmem, eq_of_beq hk⟩
  · cases hx

/-- The first item for which a test holds is the same in the groups and in the items, if all items
for which it holds share a key. -/
theorem find?_groupBy {key : α → κ} {items : List α} {p : α → Bool}
    (hp : ∀ x ∈ items, ∀ y ∈ items, p x → p y → key x = key y) :
  ((groupBy key items).flatMap Prod.snd).find? p = items.find? p
  := by
  rw [groupBy, List.flatMap_map, List.find?_flatMap]
  let inGroup (k : κ) : Option α := (items.filter fun x => key x == k).find? p
  have hgroup : ∀ k y, inGroup k = some y → y ∈ items ∧ key y = k ∧ p y := by
    intro k y hy
    obtain ⟨hmem, hk⟩ := List.mem_filter.1 (List.mem_of_find?_eq_some hy)
    exact ⟨hmem, eq_of_beq hk, List.find?_some hy⟩
  change (keysOf key items).findSome? inGroup = items.find? p
  cases hfind : items.find? p with
  | none =>
    rw [List.findSome?_eq_none_iff]
    intro k _
    cases hy : inGroup k with
    | none => rfl
    | some y =>
      obtain ⟨hmem, -, hpy⟩ := hgroup k y hy
      exact absurd hpy (List.find?_eq_none.1 hfind y hmem)
  | some x =>
    have hx : x ∈ items := List.mem_of_find?_eq_some hfind
    have hpx : p x := List.find?_some hfind
    have hown : inGroup (key x) = some x := by
      rw [← hfind]
      dsimp only [inGroup]
      rw [List.find?_filter]
      apply List.find?_congr
      intro y hy
      cases hpy : p y with
      | false => simp
      | true => simp [hp y hy x hx hpy hpx]
    cases hsome : (keysOf key items).findSome? inGroup with
    | none =>
      rw [List.findSome?_eq_none_iff] at hsome
      rw [hsome (key x) (mem_keysOf.2 ⟨x, hx, rfl⟩)] at hown
      cases hown
    | some y =>
      obtain ⟨k, -, hy⟩ := List.exists_of_findSome?_eq_some hsome
      obtain ⟨hmem, rfl, hpy⟩ := hgroup k y hy
      rw [hp y hmem x hx hpy hpx, hown] at hy
      rw [hy]

/-! ### Items one after the other -/

/-- A new key comes after the others. -/
theorem keysOf_concat (key : α → κ) (items : List α) (x : α) :
  keysOf key (items ++ [x])
    = if key x ∈ keysOf key items then keysOf key items else keysOf key items ++ [key x]
  := by
  have hmem : (items.map key).elem (key x) = true ↔ key x ∈ keysOf key items := by
    rw [List.elem_iff, keysOf, List.mem_eraseDups]
  rw [keysOf, List.map_append, List.eraseDups_append, ← keysOf, List.map_singleton,
    List.removeAll, List.filter_singleton]
  split
  · rename_i hk
    rw [hmem.2 hk]
    apply List.append_nil
  · rename_i hk
    rw [Bool.eq_false_iff.2 (hmem.not.2 hk)]
    rfl

/-- One more item is put into the group of its key. -/
theorem groupBy_concat (key : α → κ) (items : List α) (x : α) :
  groupBy key (items ++ [x]) = put key (groupBy key items) x
  := by
  have hsame : ∀ k, key x = k →
      (items ++ [x]).filter (fun y => key y == k) = items.filter (fun y => key y == k) ++ [x] := by
    intro k hk
    simp [hk]
  have hother : ∀ k, key x ≠ k →
      (items ++ [x]).filter (fun y => key y == k) = items.filter fun y => key y == k := by
    intro k hk
    simp [hk]
  rw [put, map_fst_groupBy]
  split
  · rename_i hold
    rw [List.contains_iff_mem] at hold
    rw [groupBy, keysOf_concat, if_pos hold, groupBy, List.map_map]
    apply List.map_congr_left
    intro k _
    rw [Function.comp_apply]
    split
    · rename_i hk
      rw [hsame k (eq_of_beq hk).symm]
    · rename_i hk
      rw [hother k fun h => hk (beq_iff_eq.2 h.symm)]
  · rename_i hnew
    rw [List.contains_iff_mem] at hnew
    have hnone : items.filter (fun y => key y == key x) = [] := by
      rw [List.filter_eq_nil_iff]
      intro y hy hk
      exact hnew (mem_keysOf.2 ⟨y, hy, eq_of_beq hk⟩)
    rw [groupBy, keysOf_concat, if_neg hnew, List.map_append, List.map_singleton, hsame _ rfl,
      hnone, List.nil_append, groupBy]
    congr 1
    apply List.map_congr_left
    intro k hk
    rw [hother k fun h => hnew (h ▸ hk)]

/-- The groups are those to which the items lead that are put into them one after the other. -/
theorem groupBy_eq_foldl (key : α → κ) (items : List α) :
  groupBy key items = items.foldl (put key) []
  := by
  induction items using List.reverseRecOn with
  | nil => rfl
  | append_singleton items x ih => rw [groupBy_concat, ih, List.foldl_concat]

/-- Keys come in the order in which they first appear. -/
theorem pairwise_keysOf (key : α → κ) (items : List α) :
  (keysOf key items).Pairwise fun k k' => (items.map key).idxOf k < (items.map key).idxOf k'
  := by
  induction items using List.reverseRecOn with
  | nil => apply List.Pairwise.nil
  | append_singleton items x ih =>
    have hold : ∀ k ∈ keysOf key items,
        ((items ++ [x]).map key).idxOf k = (items.map key).idxOf k := by
      intro k hk
      rw [List.map_append, List.idxOf_append_of_mem (List.mem_eraseDups.1 hk)]
    have hkept : (keysOf key items).Pairwise fun k k' =>
        ((items ++ [x]).map key).idxOf k < ((items ++ [x]).map key).idxOf k' := by
      apply ih.imp_of_mem
      intro k k' hk hk' hlt
      rw [hold k hk, hold k' hk']
      apply hlt
    rw [keysOf_concat]
    split
    · apply hkept
    · rename_i hnew
      rw [List.pairwise_append]
      use hkept, List.pairwise_singleton _ _
      intro k hk k' hk'
      rw [List.mem_singleton.1 hk', hold k hk, List.map_append,
        List.idxOf_append_of_notMem (mt List.mem_eraseDups.2 hnew)]
      apply Nat.lt_add_right
      apply List.idxOf_lt_length_iff.2 (List.mem_eraseDups.1 hk)

theorem grouped_groupBy (key : α → κ) (items : List α) :
  Grouped key items (groupBy key items)
  := by
  constructor
  · intro k
    rw [map_fst_groupBy, mem_keysOf]
  · rw [map_fst_groupBy]
    apply nodup_keysOf
  · rw [map_fst_groupBy]
    apply pairwise_keysOf
  · intro b hb
    apply (mem_groupBy.1 hb).2
  · intro x hx
    apply existsUnique_group hx
  · apply flatMap_groupBy_perm
  · apply groupBy_eq_foldl

end DocPages

import DocPages.Proofs.Tree.Forest
import Mathlib.Data.List.Nodup
import Mathlib.Data.List.Pairwise
import Mathlib.Tactic.Common

/-!
# References

The fields of a node refer to places.  The children of a node are among them, so a tree is a forest
below some roots if no place is referred to twice, counting the roots.
-/

namespace DocPages

open scoped List

namespace FieldValue

mutual

/-- The places that a value refers to. -/
@[simp]
def references : FieldValue → List Handle
  | nothing => []
  | node h => [h]
  | list items => referencesIn items
  | text _ => []
termination_by structural v => v

/-- The places that some values refer to. -/
@[simp]
def referencesIn : List FieldValue → List Handle
  | [] => []
  | v :: vs => references v ++ referencesIn vs
termination_by structural vs => vs

end

@[simp]
theorem references_nodes (hs : List Handle) :
  (nodes hs).references = hs
  := by
  rw [nodes, references]
  induction hs with
  | nil => rfl
  | cons h hs ih => rw [List.map_cons, referencesIn, ih, references, List.singleton_append]

end FieldValue

/-- The places that the fields of a node refer to. -/
def fieldReferences (fs : List (String × FieldValue)) : List Handle :=
  fs.flatMap fun f => f.2.references

namespace Tree

/-- The places that the node at a place refers to. -/
def referencesAt (t : Tree) (h : Handle) : List Handle :=
  (t.node? h).elim [] fun n => fieldReferences n.fields

/-- The places that the nodes of a tree refer to. -/
def references (t : Tree) : List Handle :=
  (List.range t.size).flatMap t.referencesAt

theorem referencesAt_of_size_le {t : Tree} {h : Handle} (hle : t.size ≤ h) :
  t.referencesAt h = []
  := by
  have hn : t.node? h = none := Array.getElem?_eq_none hle
  rw [referencesAt, hn]
  rfl

theorem lt_size_of_mem {t : Tree} {p h : Handle} (hc : h ∈ t.referencesAt p) :
  p < t.size
  := by
  by_contra hle
  rw [referencesAt_of_size_le (Nat.le_of_not_lt hle)] at hc
  cases hc

theorem mem_references {t : Tree} {p h : Handle} (hc : h ∈ t.referencesAt p) :
  h ∈ t.references
  := List.mem_flatMap.2 ⟨p, List.mem_range.2 (lt_size_of_mem hc), hc⟩

end Tree

/-! ### Children are references -/

namespace FieldValue

theorem referencesIn_append (vs ws : List FieldValue) :
  referencesIn (vs ++ ws) = referencesIn vs ++ referencesIn ws
  := by
  induction vs with
  | nil => rfl
  | cons v vs ih => rw [List.cons_append, referencesIn, ih, referencesIn, List.append_assoc]

end FieldValue

theorem lookup_sublist (fs : List (String × FieldValue)) (key : String) :
  ((fs.lookup key).getD .nothing).references <+ fieldReferences fs
  := by
  induction fs with
  | nil => apply List.Sublist.refl
  | cons f fs ih =>
    rw [fieldReferences, List.flatMap_cons, ← fieldReferences]
    by_cases hk : key = f.1
    · rw [List.lookup_cons, hk, beq_self_eq_true]
      apply List.sublist_append_left
    · rw [List.lookup_cons, beq_false_of_ne hk]
      apply ih.trans (List.sublist_append_right _ _)

/-- The values of two fields of a node refer to different of its references. -/
theorem lookup_subperm (fs : List (String × FieldValue)) {key other : String} (hne : key ≠ other) :
  (((fs.lookup key).getD .nothing).references ++ ((fs.lookup other).getD .nothing).references)
    <+~ fieldReferences fs
  := by
  induction fs with
  | nil => apply List.Subperm.refl
  | cons f fs ih =>
    rw [fieldReferences, List.flatMap_cons, ← fieldReferences, List.lookup_cons, List.lookup_cons]
    by_cases hk : key = f.1
    · rw [hk, beq_self_eq_true, beq_false_of_ne (hk ▸ hne.symm)]
      apply ((lookup_sublist fs other).append_left _).subperm
    · rw [beq_false_of_ne hk]
      by_cases ho : other = f.1
      · rw [ho, beq_self_eq_true]
        apply List.perm_append_comm.subperm.trans
        apply ((lookup_sublist fs key).append_left _).subperm
      · rw [beq_false_of_ne ho]
        apply ih.trans (List.sublist_append_right _ _).subperm

namespace Tree

theorem Children.ofItems_sublist (items : List FieldValue) :
  (ofItems items).nodes <+ FieldValue.referencesIn items
  := by
  induction items with
  | nil => apply List.Sublist.refl
  | cons v items ih =>
    cases v with
    | node h =>
      rw [ofItems, FieldValue.referencesIn, FieldValue.references, List.singleton_append]
      apply ih.cons_cons
    | _ => apply List.nil_sublist

theorem Children.referencesIn_single (n : Node) (key : String) :
  FieldValue.referencesIn (single n key) = (n.field key).references
  := by
  unfold single
  split
  · rename_i h
    rw [h]
    rfl
  · rw [FieldValue.referencesIn, FieldValue.referencesIn, List.append_nil]

theorem Children.single_sublist (n : Node) (key : String) :
  (ofItems (single n key)).nodes <+ fieldReferences n.fields
  := by
  apply (ofItems_sublist _).trans
  rw [referencesIn_single]
  apply lookup_sublist

theorem Children.many_sublist (n : Node) (key : String) :
  (many n key).nodes <+ fieldReferences n.fields
  := by
  apply List.Sublist.trans _ (lookup_sublist n.fields key)
  rw [many, ← Node.field]
  split
  · apply List.nil_sublist
  · apply List.nil_sublist
  · rename_i items h
    rw [h]
    apply ofItems_sublist
  · rename_i s h
    cases s.toList <;> apply List.nil_sublist

theorem Children.callee_sublist (t : Tree) (n : Node) :
  (callee t n).nodes <+ fieldReferences n.fields
  := by
  apply List.Sublist.trans _ (lookup_sublist n.fields "callee")
  rw [callee, ← Node.field]
  split
  · apply List.nil_sublist
  · rename_i h hn
    rw [hn]
    split
    · apply List.Sublist.refl
    · apply List.nil_sublist
  · apply List.nil_sublist
  · apply List.nil_sublist

theorem Children.pair_subperm (n : Node) {key other : String} (hne : key ≠ other) :
  (ofItems (single n key ++ single n other)).nodes <+~ fieldReferences n.fields
  := by
  apply (ofItems_sublist _).subperm.trans
  rw [FieldValue.referencesIn_append, referencesIn_single, referencesIn_single]
  apply lookup_subperm n.fields hne

/-- The children of a node are some of the places that it refers to. -/
theorem children_subperm (t : Tree) (h : Handle) :
  (t.children h).nodes <+~ t.referencesAt h
  := by
  rw [children, referencesAt]
  cases t.node? h with
  | none => apply List.Subperm.refl
  | some n =>
    change (t.childrenOf h n).nodes <+~ fieldReferences n.fields
    unfold childrenOf
    split
    · apply (Children.single_sublist n _).subperm
    · apply (Children.single_sublist n _).subperm
    · apply (Children.many_sublist n _).subperm
    · apply (Children.single_sublist n _).subperm
    · apply (Children.single_sublist n _).subperm
    · apply (Children.callee_sublist t n).subperm
    · apply (Children.many_sublist n _).subperm
    · apply Children.pair_subperm n (by decide)
    · apply (Children.many_sublist n _).subperm
    · apply (Children.single_sublist n _).subperm
    all_goals apply List.nil_subperm

/-! ### Forests by references -/

variable {t : Tree} {roots : List Handle}

/-- The children of a place are among those that it refers to. -/
theorem mem_referencesAt {p h : Handle} (hc : h ∈ (t.children p).nodes) :
  h ∈ t.referencesAt p
  := (t.children_subperm p).subset hc

/-- A place is referred to from one place at most if no place is referred to twice. -/
theorem eq_of_mem_referencesAt (hn : t.references.Nodup) {p q h : Handle}
    (hp : h ∈ t.referencesAt p) (hq : h ∈ t.referencesAt q) :
  p = q
  := by
  have hsymm : Std.Symm (Function.onFun List.Disjoint t.referencesAt) :=
    ⟨fun _ _ hd _ hq hp => hd hp hq⟩
  by_contra hne
  apply (List.nodup_flatMap.1 hn).2.forall (List.mem_range.2 (lt_size_of_mem hp))
    (List.mem_range.2 (lt_size_of_mem hq)) hne hp hq

/-- The children of a place are different if no place is referred to twice. -/
theorem nodup_children_of_references (hn : t.references.Nodup) (p : Handle) :
  (t.children p).nodes.Nodup
  := by
  obtain ⟨hs, hperm, hsub⟩ := t.children_subperm p
  apply hperm.nodup_iff.1
  apply List.Nodup.sublist hsub
  by_cases hp : p < t.size
  · apply (List.nodup_flatMap.1 hn).1 p (List.mem_range.2 hp)
  · rw [referencesAt_of_size_le (Nat.le_of_not_lt hp)]
    apply List.nodup_nil

/-- A tree is a forest below roots if no place is referred to twice, counting the roots, and all
places that are referred to are in the tree. -/
theorem forest_of_nodup (hlt : ∀ h ∈ roots ++ t.references, h < t.size)
    (hn : (roots ++ t.references).Nodup) :
  t.Forest roots
  := by
  obtain ⟨hroots, hrefs, hdisjoint⟩ := List.nodup_append.1 hn
  constructor
  · intro h hr
    cases hr with
    | start hmem => apply hlt h (List.mem_append_left _ hmem)
    | child _ hc => apply hlt h (List.mem_append_right _ (mem_references (mem_referencesAt hc)))
  · apply hroots
  · intro p _
    apply nodup_children_of_references hrefs
  · intro p h _ hc hmem
    apply hdisjoint h hmem h (mem_references (mem_referencesAt hc)) rfl
  · intro p q h _ _ hp hq
    apply eq_of_mem_referencesAt hrefs (mem_referencesAt hp) (mem_referencesAt hq)

end Tree

end DocPages

import DocPages.Concrete.Tree
import DocPages.Proofs.Tree.References
import Mathlib.Data.List.Perm.Basic
import Mathlib.Tactic.Common

/-!
# Laying out sketches

`Grows t t' hs` says that `t'` is `t` with more nodes, that each of these refers to places before
it, and that each of their places is referred to once: by one of them, or by `hs`.  Laying out a
sketch makes a tree grow, and `Sketch.At` says that the sketch stands at the place that is given
for it.
-/

namespace DocPages

namespace Tree

/-! ### Growing trees -/

/-- The places of `t'` after those of `t`. -/
def added (t t' : Tree) : List Nat :=
  List.range' t.size (t'.size - t.size)

theorem mem_added {t t' : Tree} {h : Nat} :
  h ∈ t.added t' ↔ t.size ≤ h ∧ h < t'.size
  := by
  rw [added, List.mem_range'_1]
  omega

/-- A tree has got more nodes.  They refer to places before them, and their places are referred to
once, by them and by `hs` together. -/
structure Grows (t t' : Tree) (hs : List Handle) : Prop where
  size_le : t.size ≤ t'.size
  node?_eq {h : Handle} : h < t.size → t'.node? h = t.node? h
  perm : (hs ++ (t.added t').flatMap t'.referencesAt).Perm (t.added t')
  lt {h : Handle} : t.size ≤ h → ∀ r ∈ t'.referencesAt h, r < h

variable {t t' t'' : Tree} {hs hs' : List Handle}

theorem added_append (h : t.size ≤ t'.size) (h' : t'.size ≤ t''.size) :
  t.added t' ++ t'.added t'' = t.added t''
  := by
  have hmid : t'.size = t.size + (t'.size - t.size) := by omega
  have hlen : t''.size - t.size = (t'.size - t.size) + (t''.size - t'.size) := by omega
  rw [added, added, added, hlen, ← List.range'_append_1, ← hmid]

theorem Grows.referencesAt_eq (h : t.Grows t' hs) {x : Handle} (hx : x < t.size) :
  t'.referencesAt x = t.referencesAt x
  := by
  rw [referencesAt, referencesAt, h.node?_eq hx]

/-- What the new places are referred to by is among them. -/
theorem Grows.mem_added_of_mem (h : t.Grows t' hs) {x : Handle} (hx : x ∈ hs) :
  x ∈ t.added t'
  := by
  apply h.perm.subset
  apply List.mem_append_left _ hx

theorem Grows.refl (t : Tree) :
  t.Grows t []
  where
  size_le := Nat.le_refl _
  node?_eq _ := rfl
  perm := by
    rw [added, Nat.sub_self]
    apply List.Perm.refl
  lt hle := by
    rw [referencesAt_of_size_le hle]
    intro r hr
    cases hr

theorem Grows.trans (h : t.Grows t' hs) (h' : t'.Grows t'' hs') :
  t.Grows t'' (hs ++ hs')
  := by
  constructor
  · apply Nat.le_trans h.size_le h'.size_le
  · intro x hx
    rw [h'.node?_eq (Nat.lt_of_lt_of_le hx h.size_le), h.node?_eq hx]
  · have hold : (t.added t').flatMap t''.referencesAt = (t.added t').flatMap t'.referencesAt := by
      apply List.flatMap_congr
      intro x hx
      apply h'.referencesAt_eq (mem_added.1 hx).2
    rw [← added_append h.size_le h'.size_le, List.flatMap_append, hold]
    let as := (t.added t').flatMap t'.referencesAt
    let bs := (t'.added t'').flatMap t''.referencesAt
    have hswap : (hs ++ hs' ++ (as ++ bs)).Perm ((hs ++ as) ++ (hs' ++ bs)) := by
      rw [List.append_assoc, List.append_assoc]
      apply (List.perm_append_comm_assoc hs' as bs).append_left
    apply hswap.trans
    apply h.perm.append h'.perm
  · intro x hx r hr
    by_cases hlt : x < t'.size
    · rw [h'.referencesAt_eq hlt] at hr
      apply h.lt hx r hr
    · apply h'.lt (Nat.le_of_not_lt hlt) r hr

/-- A new node that refers to what is left makes its own place what is left. -/
theorem Grows.push (h : t.Grows t' hs) {n : Node} (hn : fieldReferences n.fields = hs) :
  t.Grows (t'.push n) [t'.size]
  := by
  have hnew : (t'.push n).referencesAt t'.size = hs := by
    rw [referencesAt, node?_push, if_pos rfl, ← hn]
    rfl
  have hold : ∀ {x}, x ≠ t'.size → (t'.push n).referencesAt x = t'.referencesAt x := by
    intro x hx
    rw [referencesAt, node?_push, if_neg hx]
    rfl
  constructor
  · rw [size_push]
    apply Nat.le_succ_of_le h.size_le
  · intro x hx
    rw [node?_push, if_neg (Nat.ne_of_lt (Nat.lt_of_lt_of_le hx h.size_le))]
    apply h.node?_eq hx
  · have hadded : t.added (t'.push n) = t.added t' ++ [t'.size] := by
      have hle := h.size_le
      rw [← added_append hle (by rw [size_push]; omega)]
      simp [added]
    have hmap : (t.added t').flatMap (t'.push n).referencesAt
        = (t.added t').flatMap t'.referencesAt := by
      apply List.flatMap_congr
      intro x hx
      apply hold
      have := mem_added.1 hx
      omega
    rw [hadded, List.flatMap_append, hmap, List.flatMap_singleton, hnew]
    apply List.perm_append_comm.trans
    apply List.Perm.append_right
    apply List.perm_append_comm.trans h.perm
  · intro x hx r hr
    by_cases hxt : x = t'.size
    · rw [hxt, hnew] at hr
      rw [hxt]
      apply (mem_added.1 (h.mem_added_of_mem hr)).2
    · rw [hold hxt] at hr
      apply h.lt hx r hr

end Tree

/-! ### Sketches in trees -/

namespace Sketch

mutual

/-- The sketch stands at a place of the tree, with its texts read from the source. -/
def At (source : List Char) (t : Tree) : Sketch → Handle → Prop
  | node kind extent fields, h =>
    ∃ fs, t.node? h = some ⟨kind, extent, fs⟩ ∧ FieldsAt source t fields fs
termination_by structural s => s

/-- The sketches stand at places of the tree. -/
def AllAt (source : List Char) (t : Tree) : List Sketch → List Handle → Prop
  | [], hs => hs = []
  | s :: ss, hs => ∃ h hs', hs = h :: hs' ∧ At source t s h ∧ AllAt source t ss hs'
termination_by structural ss => ss

/-- The fields refer to the sketches where they stand. -/
def FieldsAt (source : List Char) (t : Tree) :
    List (String × SketchField) → List (String × FieldValue) → Prop
  | [], fs => fs = []
  | f :: fields, fs =>
    ∃ g fs', fs = g :: fs' ∧ KeyedAt source t f g ∧ FieldsAt source t fields fs'
termination_by structural fields => fields

/-- The field refers to the sketches where they stand. -/
def KeyedAt (source : List Char) (t : Tree) : String × SketchField → String × FieldValue → Prop
  | (key, v), g => g.1 = key ∧ FieldAt source t v g.2
termination_by structural f => f

/-- The value refers to the sketches where they stand. -/
def FieldAt (source : List Char) (t : Tree) : SketchField → FieldValue → Prop
  | .nothing, w => w = .nothing
  | .one s, w => ∃ h, w = .node h ∧ At source t s h
  | .many ss, w => ∃ hs, w = .nodes hs ∧ AllAt source t ss hs
  | .span start stop, w =>
    ∃ cs, Text.slice? start stop source = some cs ∧ w = .text (String.ofList cs)
termination_by structural v => v

end

variable {source : List Char}

mutual

/-- A sketch stands where it stood when nodes are added. -/
theorem At.mono {t t' : Tree} (hn : ∀ h n, t.node? h = some n → t'.node? h = some n) :
    ∀ {s : Sketch} {h : Handle}, s.At source t h → s.At source t' h
  | node _ _ _, h, ⟨fs, hnode, hfields⟩ => ⟨fs, hn h _ hnode, FieldsAt.mono hn hfields⟩

theorem AllAt.mono {t t' : Tree} (hn : ∀ h n, t.node? h = some n → t'.node? h = some n) :
    ∀ {ss : List Sketch} {hs : List Handle}, AllAt source t ss hs → AllAt source t' ss hs
  | [], _, he => he
  | _ :: _, _, ⟨h, hs, he, hat, hall⟩ => ⟨h, hs, he, At.mono hn hat, AllAt.mono hn hall⟩

theorem FieldsAt.mono {t t' : Tree} (hn : ∀ h n, t.node? h = some n → t'.node? h = some n) :
    ∀ {fields : List (String × SketchField)} {fs : List (String × FieldValue)},
      FieldsAt source t fields fs → FieldsAt source t' fields fs
  | [], _, he => he
  | _ :: _, _, ⟨g, fs, he, hf, hfs⟩ =>
    ⟨g, fs, he, KeyedAt.mono hn hf, FieldsAt.mono hn hfs⟩

theorem KeyedAt.mono {t t' : Tree} (hn : ∀ h n, t.node? h = some n → t'.node? h = some n) :
    ∀ {f : String × SketchField} {g : String × FieldValue},
      KeyedAt source t f g → KeyedAt source t' f g
  | (_, _), _, ⟨hk, hv⟩ => ⟨hk, FieldAt.mono hn hv⟩

theorem FieldAt.mono {t t' : Tree} (hn : ∀ h n, t.node? h = some n → t'.node? h = some n) :
    ∀ {v : SketchField} {w : FieldValue}, FieldAt source t v w → FieldAt source t' v w
  | .nothing, _, hw => hw
  | .one _, _, ⟨h, hw, hat⟩ => ⟨h, hw, At.mono hn hat⟩
  | .many _, _, ⟨hs, hw, hall⟩ => ⟨hs, hw, AllAt.mono hn hall⟩
  | .span _ _, _, hw => hw

end

theorem node?_of_grows {t t' : Tree} {hs : List Handle} (hg : t.Grows t' hs) (h : Handle)
    (n : Node) (hn : t.node? h = some n) :
  t'.node? h = some n
  := by
  have hlt : h < t.size := (Array.getElem?_eq_some_iff.1 hn).1
  rw [hg.node?_eq hlt, hn]

/-! ### Laying out -/

mutual

/-- Laying out a sketch makes the tree grow by it, with its root last. -/
theorem grows_of_layOut? {t t' : Tree} {s : Sketch} (h : layOut? source s t = some t') :
  t.Grows t' [t'.size - 1] ∧ s.At source t' (t'.size - 1)
  := by
  cases s with
  | node kind extent fields =>
    rw [layOut?] at h
    obtain ⟨⟨fs, t₁⟩, h₁, he⟩ := Option.map_eq_some_iff.1 h
    cases he
    obtain ⟨hg, hfields⟩ := grows_of_layOutFields? h₁
    have hpush := hg.push (n := ⟨kind, extent, fs⟩) rfl
    rw [Tree.size_push, Nat.add_sub_cancel]
    use hpush, fs
    constructor
    · rw [Tree.node?_push, if_pos rfl]
    · apply hfields.mono
      intro x n hx
      have hlt : x < t₁.size := (Array.getElem?_eq_some_iff.1 hx).1
      rw [Tree.node?_push, if_neg (Nat.ne_of_lt hlt), hx]
termination_by structural s

theorem grows_of_layOutAll? {t t' : Tree} {ss : List Sketch} {hs : List Handle}
    (h : layOutAll? source ss t = some (hs, t')) :
  t.Grows t' hs ∧ AllAt source t' ss hs
  := by
  cases ss with
  | nil =>
    rw [layOutAll?] at h
    cases h
    exact ⟨Tree.Grows.refl t, rfl⟩
  | cons s ss =>
    rw [layOutAll?] at h
    obtain ⟨t₁, h₁, h⟩ := Option.bind_eq_some_iff.1 h
    obtain ⟨⟨hs', t₂⟩, h₂, he⟩ := Option.map_eq_some_iff.1 h
    cases he
    obtain ⟨hg₁, hat⟩ := grows_of_layOut? h₁
    obtain ⟨hg₂, hall⟩ := grows_of_layOutAll? h₂
    exact ⟨hg₁.trans hg₂, _, hs', rfl, hat.mono (node?_of_grows hg₂), hall⟩
termination_by structural ss

theorem grows_of_layOutFields? {t t' : Tree} {fields : List (String × SketchField)}
    {fs : List (String × FieldValue)} (h : layOutFields? source fields t = some (fs, t')) :
  t.Grows t' (fieldReferences fs) ∧ FieldsAt source t' fields fs
  := by
  cases fields with
  | nil =>
    rw [layOutFields?] at h
    cases h
    exact ⟨Tree.Grows.refl t, rfl⟩
  | cons f fields =>
    rw [layOutFields?] at h
    obtain ⟨⟨g, t₁⟩, h₁, h⟩ := Option.bind_eq_some_iff.1 h
    obtain ⟨⟨gs, t₂⟩, h₂, he⟩ := Option.map_eq_some_iff.1 h
    cases he
    obtain ⟨hg₁, hat⟩ := grows_of_layOutKeyed? h₁
    obtain ⟨hg₂, hall⟩ := grows_of_layOutFields? h₂
    exact ⟨hg₁.trans hg₂, g, gs, rfl, hat.mono (node?_of_grows hg₂), hall⟩
termination_by structural fields

theorem grows_of_layOutKeyed? {t t' : Tree} {f : String × SketchField} {g : String × FieldValue}
    (h : layOutKeyed? source f t = some (g, t')) :
  t.Grows t' g.2.references ∧ KeyedAt source t' f g
  := by
  cases f with
  | mk key v =>
    rw [layOutKeyed?] at h
    obtain ⟨⟨w, t₁⟩, h₁, he⟩ := Option.map_eq_some_iff.1 h
    cases he
    obtain ⟨hg, hv⟩ := grows_of_layOutField? h₁
    exact ⟨hg, rfl, hv⟩
termination_by structural f

theorem grows_of_layOutField? {t t' : Tree} {v : SketchField} {w : FieldValue}
    (h : layOutField? source v t = some (w, t')) :
  t.Grows t' w.references ∧ FieldAt source t' v w
  := by
  cases v with
  | nothing =>
    rw [layOutField?] at h
    cases h
    exact ⟨Tree.Grows.refl t, rfl⟩
  | one s =>
    rw [layOutField?] at h
    obtain ⟨t₁, h₁, he⟩ := Option.map_eq_some_iff.1 h
    cases he
    obtain ⟨hg, hat⟩ := grows_of_layOut? h₁
    exact ⟨hg, _, rfl, hat⟩
  | many ss =>
    rw [layOutField?] at h
    obtain ⟨⟨hs, t₁⟩, h₁, he⟩ := Option.map_eq_some_iff.1 h
    cases he
    obtain ⟨hg, hall⟩ := grows_of_layOutAll? h₁
    rw [FieldValue.references_nodes]
    exact ⟨hg, hs, rfl, hall⟩
  | span start stop =>
    rw [layOutField?] at h
    obtain ⟨cs, h₁, he⟩ := Option.map_eq_some_iff.1 h
    cases he
    exact ⟨Tree.Grows.refl t, cs, h₁, rfl⟩
termination_by structural v

end

end Sketch

end DocPages

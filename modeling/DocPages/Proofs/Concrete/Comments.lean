import DocPages.Proofs.Concrete.Forest
import DocPages.Proofs.Concrete.Position
import Mathlib.Data.List.Infix

/-!
# Comments of a source

If the nodes of a concrete tree are placed as they are written, one after the other and each inside
its parent, the comments of the syntax tree are those of the outermost comment nodes, in the order of
the source, and each says what the source has between its delimiters.  The nodes of the syntax tree
are not made from comments: they stay the same when every comment that fills no field is taken out of
the concrete tree.
-/

namespace DocPages

/-! ### Parts of a text between bytes -/

namespace Text

theorem byteCount_append (us vs : List Char) :
  byteCount (us ++ vs) = byteCount us + byteCount vs
  := by
  induction us with
  | nil => rw [List.nil_append, byteCount, Nat.zero_add]
  | cons u us ih => rw [List.cons_append, byteCount, byteCount, ih, Nat.add_assoc]

theorem byteCount_pos {cs : List Char} (h : cs ≠ []) :
  0 < byteCount cs
  := by
  cases cs with
  | nil => exact absurd rfl h
  | cons c cs => apply Nat.add_pos_left c.utf8Size_pos

/-- The byte lies between two characters, at the start or at the end of the text. -/
def IsBoundary (source : List Char) (b : Nat) : Prop :=
  ∃ us, us <+: source ∧ byteCount us = b

instance (source : List Char) (b : Nat) : Decidable (IsBoundary source b) :=
  decidable_of_iff (∃ us ∈ source.inits, byteCount us = b) (by simp [IsBoundary])

/-- The part `cs` of the text starts and stops at these bytes. -/
def Covers (source : List Char) (start stop : Nat) (cs : List Char) : Prop :=
  ∃ us vs, source = us ++ cs ++ vs ∧ byteCount us = start ∧ byteCount (us ++ cs) = stop

theorem exists_covers {source : List Char} {start stop : Nat} (hle : start ≤ stop)
    (hstart : IsBoundary source start) (hstop : IsBoundary source stop) :
  ∃ cs, Covers source start stop cs
  := by
  obtain ⟨us, hus, rfl⟩ := hstart
  obtain ⟨ws, hws, rfl⟩ := hstop
  rcases List.prefix_or_prefix_of_prefix hus hws with ⟨cs, rfl⟩ | ⟨cs, rfl⟩
  · obtain ⟨vs, rfl⟩ := hws
    exact ⟨cs, us, vs, rfl, rfl, rfl⟩
  · -- The part would have to start after its end, so nothing is between the two.
    have hcs : cs = [] := by
      by_contra hne
      have hpos := byteCount_pos hne
      rw [byteCount_append] at hle
      omega
    obtain ⟨vs, rfl⟩ := hus
    rw [hcs, List.append_nil]
    exact ⟨[], ws, vs, by rw [List.append_nil], rfl, by rw [List.append_nil]⟩

theorem Covers.slice?_eq {source cs : List Char} {start stop : Nat}
    (h : Covers source start stop cs) :
  slice? start stop source = some cs
  := by
  obtain ⟨us, vs, rfl, rfl, rfl⟩ := h
  rw [slice?, byteCount_append]
  split
  · rename_i hle
    cases cs with
    | nil => rfl
    | cons c cs =>
      have hpos := byteCount_pos (List.cons_ne_nil c cs)
      omega
  · rw [List.append_assoc, dropBytes?_byteCount_append, Option.bind_some, Nat.add_sub_cancel_left,
      takeBytes?_byteCount_append]

end Text

/-! ### The text of a comment -/

/-- The comment `c` is written as `cs` in the source.  A block comment is written between
delimiters. -/
structure Comment.WrittenAs (c : Comment) (cs : List Char) : Prop where
  block_iff : c.kind = .block ↔ ['/', '*'] <+: cs
  block : ['/', '*'] <+: cs → c.value.toList = (cs.drop 2).dropLast.dropLast
  delimited : ∀ v, cs = ['/', '*'] ++ v ++ ['*', '/'] → c.value.toList = v
  line : ¬ ['/', '*'] <+: cs → c.value.toList = cs.drop 2

theorem Comment.writtenAs_ofText (cs : List Char) (extent : Extent) :
  (ofText cs extent).WrittenAs cs
  := by
  have hblock : ∀ r, Text.after? ['/', '*'] cs = some r →
      (ofText cs extent).kind = .block
        ∧ (ofText cs extent).value.toList = r.dropLast.dropLast := by
    intro r hr
    rw [ofText, hr, List.dropLast_eq_take, List.dropLast_eq_take, List.take_take]
    simp only [String.toList_ofList, List.length_take, true_and]
    congr 1
    omega
  have hline : Text.after? ['/', '*'] cs = none →
      (ofText cs extent).kind = .line ∧ (ofText cs extent).value.toList = cs.drop 2 := by
    intro hnone
    rw [ofText, hnone]
    exact ⟨rfl, String.toList_ofList⟩
  cases hr : Text.after? ['/', '*'] cs with
  | some r =>
    obtain ⟨hkind, hvalue⟩ := hblock r hr
    obtain rfl := Text.after?_eq_some_iff.1 hr
    have hstart : ['/', '*'] <+: ['/', '*'] ++ r := List.prefix_append _ _
    constructor
    · exact iff_of_true hkind hstart
    · intro _
      apply hvalue
    · intro v hv
      obtain rfl := List.append_cancel_left (hv.trans (List.append_assoc _ _ _))
      rw [hvalue, List.dropLast_append_of_ne_nil (List.cons_ne_nil _ _)]
      apply List.dropLast_concat
    · intro hno
      exact absurd hstart hno
  | none =>
    obtain ⟨hkind, hvalue⟩ := hline hr
    have hstart : ¬ ['/', '*'] <+: cs := by
      rintro ⟨r, rfl⟩
      rw [Text.after?_append] at hr
      cases hr
    constructor
    · rw [hkind]
      exact iff_of_false (by decide) hstart
    · intro hpre
      exact absurd hpre hstart
    · rintro v rfl
      exact absurd (List.prefix_append _ _) hstart
    · intro _
      apply hvalue

/-- If something is made of each item, each result is made of its item. -/
theorem forall₂_of_mapM_eq_some {α β : Type} {f : α → Option β} {xs : List α} {ys : List β}
    (h : xs.mapM f = some ys) :
  List.Forall₂ (fun x y => f x = some y) xs ys
  := by
  induction xs generalizing ys with
  | nil =>
    cases h
    apply List.Forall₂.nil
  | cons x xs ih =>
    rw [List.mapM_cons] at h
    obtain ⟨y, hy, h⟩ := Option.bind_eq_some_iff.1 h
    obtain ⟨zs, hzs, h⟩ := Option.bind_eq_some_iff.1 h
    cases h
    exact List.Forall₂.cons hy (ih hzs)

namespace Concrete

/-! ### Trees as they are written -/

/-- A node starts and stops between characters, and its children stand one after the other inside
it. -/
structure InOrder (source : List Char) (l : Label) (cs : List Concrete) : Prop where
  start_le : l.bytes.1 ≤ l.bytes.2
  start : Text.IsBoundary source l.bytes.1
  stop : Text.IsBoundary source l.bytes.2
  nested : ∀ c ∈ cs, l.bytes.1 ≤ c.label.bytes.1 ∧ c.label.bytes.2 ≤ l.bytes.2
  ordered : cs.Pairwise fun c d => c.label.bytes.2 ≤ d.label.bytes.1

theorem inOrder_iff {source : List Char} {l : Label} {cs : List Concrete} :
  InOrder source l cs ↔ l.bytes.1 ≤ l.bytes.2
    ∧ Text.IsBoundary source l.bytes.1 ∧ Text.IsBoundary source l.bytes.2
    ∧ (∀ c ∈ cs, l.bytes.1 ≤ c.label.bytes.1 ∧ c.label.bytes.2 ≤ l.bytes.2)
    ∧ cs.Pairwise fun c d => c.label.bytes.2 ≤ d.label.bytes.1
  := ⟨fun h => ⟨h.1, h.2, h.3, h.4, h.5⟩, fun h => ⟨h.1, h.2.1, h.2.2.1, h.2.2.2.1, h.2.2.2.2⟩⟩

instance (source : List Char) (l : Label) (cs : List Concrete) :
    Decidable (InOrder source l cs) :=
  decidable_of_iff _ inOrder_iff.symm

/-- All nodes of a tree are placed as they are written. -/
inductive Placed (source : List Char) : Concrete → Prop where
  | node {l : Label} {cs : List Concrete} :
      InOrder source l cs → (∀ c ∈ cs, Placed source c) → Placed source (.node l cs)

variable {source : List Char} {c : Concrete} {test : Label → Bool}

theorem Placed.inOrder (h : Placed source c) :
  InOrder source c.label c.children
  := by
  cases h with
  | node h _ => apply h

theorem Placed.of_mem (h : Placed source c) {d : Concrete} (hd : d ∈ c.children) :
  Placed source d
  := by
  cases h with
  | node _ h => apply h d hd

/-- Every node of a placed tree lies inside the root and starts and stops between characters. -/
theorem Placed.within (h : Placed source c) {p : List Nat} {l : Label}
    (hl : c.labelAt? p = some l) :
  c.label.bytes.1 ≤ l.bytes.1 ∧ l.bytes.2 ≤ c.label.bytes.2 ∧ ∃ cs, InOrder source l cs
  := by
  induction p generalizing c with
  | nil =>
    cases hl
    exact ⟨Nat.le_refl _, Nat.le_refl _, c.children, h.inOrder⟩
  | cons i p ih =>
    obtain ⟨d, hd, hl⟩ := Option.bind_eq_some_iff.1 hl
    have hmem := List.mem_of_getElem? hd
    obtain ⟨hstart, hstop⟩ := h.inOrder.nested d hmem
    obtain ⟨hstart', hstop', hcs⟩ := ih (h.of_mem hmem) hl
    exact ⟨hstart.trans hstart', hstop'.trans hstop, hcs⟩

theorem Placed.pairwise_start_outermostIn {cs : List Concrete} (hcs : ∀ c ∈ cs, Placed source c)
    (hordered : cs.Pairwise fun c d => c.label.bytes.2 ≤ d.label.bytes.1)
    (h : ∀ c ∈ cs, (outermost test c).Pairwise fun a b => a.2.bytes.1 ≤ b.2.bytes.1) (i : Nat) :
  (outermostIn test i cs).Pairwise fun a b => a.2.bytes.1 ≤ b.2.bytes.1
  := by
  induction cs generalizing i with
  | nil => apply List.Pairwise.nil
  | cons c cs ih =>
    rw [List.forall_mem_cons] at hcs h
    rw [List.pairwise_cons] at hordered
    rw [outermostIn, List.pairwise_append, List.pairwise_map]
    refine ⟨h.1, ih hcs.2 hordered.2 h.2 (i + 1), ?_⟩
    intro a ha b hb
    obtain ⟨⟨p, l⟩, hn, rfl⟩ := List.mem_map.1 ha
    obtain ⟨j, q, d, -, hd, hmem⟩ := mem_outermostIn.1 hb
    have hdmem := List.mem_of_getElem? hd
    obtain ⟨-, hstop, _, ho⟩ := hcs.1.within (mem_outermost.1 hn).label
    obtain ⟨hstart, -, -⟩ := (hcs.2 d hdmem).within (mem_outermost.1 hmem).label
    calc l.bytes.1
      _ ≤ l.bytes.2 := ho.start_le
      _ ≤ c.label.bytes.2 := hstop
      _ ≤ d.label.bytes.1 := hordered.1 d hdmem
      _ ≤ b.2.bytes.1 := hstart

/-- The outermost nodes that pass a test are listed in the order in which they start. -/
theorem Placed.pairwise_start_outermost (h : Placed source c) (test : Label → Bool) :
  (outermost test c).Pairwise fun a b => a.2.bytes.1 ≤ b.2.bytes.1
  := by
  induction h with
  | node ho hcs ih =>
    rw [outermost]
    split
    · apply List.pairwise_singleton
    · apply Placed.pairwise_start_outermostIn hcs ho.ordered ih

theorem mem_labelsIn {cs : List Concrete} {l : Label} :
  l ∈ labelsIn cs ↔ ∃ c ∈ cs, l ∈ c.labels
  := by
  induction cs with
  | nil => simp
  | cons c cs ih => simp [ih]

/-- The label of every node stands at a position. -/
theorem exists_labelAt? {l : Label} (h : l ∈ c.labels) :
  ∃ p, c.labelAt? p = some l
  := by
  induction c using byChildren with
  | node l₀ cs ih =>
    rcases List.mem_cons.1 h with rfl | h
    · exact ⟨[], rfl⟩
    · obtain ⟨d, hd, h⟩ := mem_labelsIn.1 h
      obtain ⟨p, hp⟩ := ih d hd h
      obtain ⟨i, hi⟩ := List.mem_iff_getElem?.1 hd
      use i :: p
      rw [labelAt?, children, hi, Option.bind_some, hp]

theorem Placed.exists_covers (h : Placed source c) {p : List Nat} {l : Label}
    (hl : c.labelAt? p = some l) :
  ∃ cs, Text.Covers source l.bytes.1 l.bytes.2 cs
  := by
  obtain ⟨-, -, cs, ho⟩ := h.within hl
  apply Text.exists_covers ho.start_le ho.start ho.stop

theorem Placed.fits (h : Placed source c) :
  c.Fits source
  := by
  intro l hl
  obtain ⟨p, hp⟩ := exists_labelAt? hl
  obtain ⟨cs, hcs⟩ := h.exists_covers hp
  rw [Cuts, hcs.slice?_eq]
  rfl

/-! ### The comments of a tree -/

/-- Is the node a comment? -/
def Label.isComment (l : Label) : Bool :=
  l.kind = commentKind

/-- The comments of a source are those of the outermost comment nodes: each has one comment, they
stand in the order of the source, and each is written there as the node says. -/
def HasComments (source : List Char) (root : Concrete) (comments : List Comment) : Prop :=
  ∃ ns : List (List Nat × Label),
    (∀ p l, (p, l) ∈ ns ↔ IsOutermost Label.isComment root p l)
      ∧ (ns.Pairwise fun a b => a.1 < b.1 ∧ a.2.bytes.1 ≤ b.2.bytes.1)
      ∧ List.Forall₂ (fun n comment => comment.extent = n.2.rows
        ∧ ∃ cs, Text.Covers source n.2.bytes.1 n.2.bytes.2 cs ∧ comment.WrittenAs cs) ns comments

theorem commentLabelsIn_eq {cs : List Concrete}
    (h : ∀ c ∈ cs, commentLabels c = (outermost Label.isComment c).map Prod.snd) (i : Nat) :
  commentLabelsIn cs = (outermostIn Label.isComment i cs).map Prod.snd
  := by
  induction cs generalizing i with
  | nil => rfl
  | cons c cs ih =>
    rw [List.forall_mem_cons] at h
    rw [commentLabelsIn, outermostIn, h.1, ih h.2 (i + 1), List.map_append, List.map_map]
    rfl

theorem commentLabels_eq (c : Concrete) :
  commentLabels c = (outermost Label.isComment c).map Prod.snd
  := by
  induction c using byChildren with
  | node l cs ih =>
    rw [commentLabels, outermost, Label.isComment]
    simp only [decide_eq_true_eq]
    split
    · rfl
    · apply commentLabelsIn_eq ih

/-- The comment of a node is written as the source has it there. -/
theorem Placed.writtenAs (h : Placed source c) {p : List Nat} {l : Label}
    (hl : c.labelAt? p = some l) {comment : Comment}
    (hc : Comment.ofLabel? source l = some comment) :
  comment.extent = l.rows
    ∧ ∃ cs, Text.Covers source l.bytes.1 l.bytes.2 cs ∧ comment.WrittenAs cs
  := by
  obtain ⟨cs, hcs⟩ := h.exists_covers hl
  rw [Comment.ofLabel?, hcs.slice?_eq, Option.map_some] at hc
  obtain rfl := Option.some.inj hc
  constructor
  · rw [Comment.ofText]
    split
    · rfl
    · rfl
  · exact ⟨cs, hcs, Comment.writtenAs_ofText cs l.rows⟩

theorem Placed.hasComments (h : Placed source c) {comments : List Comment}
    (hc : c.comments? source = some comments) :
  HasComments source c comments
  := by
  refine ⟨outermost Label.isComment c, fun p l => mem_outermost, ?_, ?_⟩
  · apply (pairwise_outermost _ c).and (h.pairwise_start_outermost _)
  · rw [comments?, commentLabels_eq] at hc
    have hread := List.forall₂_map_left_iff.1 (forall₂_of_mapM_eq_some hc)
    have hlabel : ∀ n ∈ outermost Label.isComment c, c.labelAt? n.1 = some n.2 :=
      fun n hn => (mem_outermost.1 hn).label
    apply ((List.forall₂_and_left _ _).2 ⟨hlabel, hread⟩).imp
    rintro n comment ⟨hl, hcomment⟩
    apply h.writtenAs hl hcomment

/-! ### Trees without comments -/

/-- Is the node a comment that fills no field? -/
def Label.isLoose (l : Label) : Bool :=
  l.isComment && l.field.isNone

mutual

/-- The tree without the comments that fill no field, and without what is in them. -/
def withoutComments : Concrete → Concrete
  | node l cs => node l (withoutCommentsIn cs)
termination_by structural c => c

/-- The trees that are no comments or fill a field, without the comments in them that fill none. -/
def withoutCommentsIn : List Concrete → List Concrete
  | [] => []
  | c :: cs =>
    if c.label.isLoose then withoutCommentsIn cs
    else withoutComments c :: withoutCommentsIn cs
termination_by structural cs => cs

end

/-- What is made of a phrase depends on the parts that fill its fields and on those that are named and
no comments. -/
theorem sketchOf_congr {parts parts' : List Part} (hphrases : phrases parts = phrases parts')
    (hpart : partOf? parts = partOf? parts') (l : Label) :
  sketchOf l parts = sketchOf l parts'
  := by
  have hfield : fieldOf parts = fieldOf parts' := by
    funext field
    rw [fieldOf, fieldOf, hpart]
  have hparameters : parametersOf parts = parametersOf parts' := by
    rw [parametersOf, parametersOf, hpart]
  have harguments : argumentsOf parts = argumentsOf parts' := by
    rw [argumentsOf, argumentsOf, hpart]
  unfold sketchOf
  rw [hphrases, hfield, hparameters, harguments]

/-- The parts that are no comments or fill a field. -/
def solidParts (parts : List Part) : List Part :=
  parts.filter fun p => !p.label.isLoose

theorem phrases_solidParts (parts : List Part) :
  phrases (solidParts parts) = phrases parts
  := by
  rw [phrases, phrases, solidParts, List.filter_filter]
  apply List.filter_congr
  intro p _
  rw [Bool.eq_iff_iff]
  simp only [Label.isLoose, Label.isComment, Bool.and_eq_true, bne_iff_ne, ne_eq, Bool.not_eq_true',
    Bool.and_eq_false_iff, decide_eq_false_iff_not]
  tauto

theorem partOf?_solidParts (parts : List Part) :
  partOf? (solidParts parts) = partOf? parts
  := by
  funext field
  rw [partOf?, partOf?, solidParts, List.find?_filter]
  congr 1
  funext p
  rw [Bool.eq_iff_iff]
  cases hf : p.label.field with
  | none => simp
  | some key => simp [Label.isLoose, hf]

theorem partsIn_withoutCommentsIn {cs : List Concrete}
    (h : ∀ c ∈ cs, part (withoutComments c) = part c) :
  partsIn (withoutCommentsIn cs) = solidParts (partsIn cs)
  := by
  induction cs with
  | nil => rfl
  | cons c cs ih =>
    rw [List.forall_mem_cons] at h
    have hlabel : c.part.label = c.label := by
      cases c
      rw [part]
      rfl
    rw [withoutCommentsIn, partsIn, solidParts, List.filter_cons, hlabel, ← solidParts, ← ih h.2]
    cases c.label.isLoose with
    | true => rfl
    | false =>
      rw [if_neg Bool.false_ne_true, partsIn, h.1]
      rfl

/-- Comments that fill no field are no part of what is made of a tree. -/
theorem part_withoutComments (c : Concrete) :
  part (withoutComments c) = part c
  := by
  induction c using byChildren with
  | node l cs ih =>
    rw [withoutComments, part, part, partsIn_withoutCommentsIn ih, phrases_solidParts,
      sketchOf_congr (phrases_solidParts _) (partOf?_solidParts _)]

theorem labelsIn_withoutCommentsIn_subset {cs : List Concrete}
    (h : ∀ c ∈ cs, labels (withoutComments c) ⊆ labels c) :
  labelsIn (withoutCommentsIn cs) ⊆ labelsIn cs
  := by
  induction cs with
  | nil => apply List.Subset.refl
  | cons c cs ih =>
    rw [List.forall_mem_cons] at h
    rw [withoutCommentsIn, labelsIn]
    split
    · apply List.subset_append_of_subset_right _ (ih h.2)
    · rw [labelsIn]
      apply List.append_subset.2
      constructor
      · apply List.subset_append_of_subset_left _ h.1
      · apply List.subset_append_of_subset_right _ (ih h.2)

theorem labels_withoutComments_subset (c : Concrete) :
  labels (withoutComments c) ⊆ labels c
  := by
  induction c using byChildren with
  | node l cs ih =>
    rw [withoutComments, labels, labels]
    apply List.cons_subset_cons _ (labelsIn_withoutCommentsIn_subset ih)

/-! ### The syntax tree of a source -/

/-- A source whose concrete tree is placed as it is written has a syntax tree.  Its comments are those
of the source, and its nodes stay the same without the comments that fill no field. -/
theorem toTree_hasComments {source : String} {root : Concrete} (h : Placed source.toList root) :
  ∃ t, toTree source false root = .ok t ∧ HasComments source.toList root t.comments
    ∧ ∃ t', toTree source false root.withoutComments = .ok t'
      ∧ t'.nodes = t.nodes ∧ t'.body = t.body
  := by
  have hfits : root.withoutComments.Fits source.toList :=
    fun l hl => h.fits l (labels_withoutComments_subset root hl)
  obtain ⟨t, ht⟩ := exists_toTree h.fits
  obtain ⟨t', ht'⟩ := exists_toTree hfits
  obtain ⟨t₀, hlay, hnodes, hcomments⟩ := layOutAll?_of_toTree ht
  obtain ⟨t₁, hlay', hnodes', -⟩ := layOutAll?_of_toTree ht'
  rw [part_withoutComments, hlay] at hlay'
  obtain ⟨hbody, rfl⟩ := Prod.mk.inj (Option.some.inj hlay')
  exact ⟨t, ht, h.hasComments hcomments, t', ht', hnodes'.trans hnodes.symm, hbody.symm⟩

/-- The concrete tree of `/*ä*/a(/*é*/);//ü`. -/
def commentedTree : Concrete :=
  let leaf (kind : String) (field : Option String) (bytes : Nat × Nat) : Concrete :=
    .node { kind, field, rows := ⟨0, 0⟩, bytes } []
  let arguments : Concrete :=
    .node { kind := "arguments", field := "arguments", rows := ⟨0, 0⟩, bytes := (7, 15) }
      [leaf "comment" none (8, 14)]
  let call : Concrete :=
    .node { kind := "call_expression", rows := ⟨0, 0⟩, bytes := (6, 15) }
      [leaf "identifier" "function" (6, 7), arguments]
  let statement : Concrete :=
    .node { kind := "expression_statement", rows := ⟨0, 0⟩, bytes := (6, 16) } [call]
  .node { kind := "program", rows := ⟨0, 0⟩, bytes := (0, 20) }
    [leaf "comment" none (0, 6), statement, leaf "comment" none (16, 20)]

theorem placed_commentedTree :
  Placed "/*ä*/a(/*é*/);//ü".toList commentedTree
  := by
  have hleaf : ∀ l : Label, InOrder "/*ä*/a(/*é*/);//ü".toList l [] →
      Placed "/*ä*/a(/*é*/);//ü".toList (.node l []) := fun l hl => .node hl (by simp)
  apply Placed.node (by decide +kernel)
  simp only [List.forall_mem_cons]
  refine ⟨hleaf _ (by decide +kernel), ?_, hleaf _ (by decide +kernel), by simp⟩
  apply Placed.node (by decide +kernel)
  simp only [List.forall_mem_cons]
  refine ⟨?_, by simp⟩
  apply Placed.node (by decide +kernel)
  simp only [List.forall_mem_cons]
  refine ⟨hleaf _ (by decide +kernel), ?_, by simp⟩
  apply Placed.node (by decide +kernel)
  simp only [List.forall_mem_cons]
  exact ⟨hleaf _ (by decide +kernel), by simp⟩

theorem toTree_hasComments_commentedTree :
  Placed "/*ä*/a(/*é*/);//ü".toList commentedTree
    ∧ ∃ t, toTree "/*ä*/a(/*é*/);//ü" false commentedTree = .ok t
      ∧ HasComments "/*ä*/a(/*é*/);//ü".toList commentedTree t.comments
  := by
  obtain ⟨t, ht, hcomments, -⟩ := toTree_hasComments placed_commentedTree
  exact ⟨placed_commentedTree, t, ht, hcomments⟩

example :
    (commentedTree.comments? "/*ä*/a(/*é*/);//ü".toList).map (List.map Comment.value)
      = some ["ä", "é", "ü"] := by
  decide +kernel

end Concrete

end DocPages

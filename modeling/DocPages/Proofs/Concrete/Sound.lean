import DocPages.Proofs.Concrete.Layout
import DocPages.Proofs.Tree.Legible
import Mathlib.Tactic.Common

/-!
# Sound sketches

The sketch of a concrete tree is sound: every field that a walk goes to holds what it should, one
sketch or several, as the kind of its node wants, the fields in which names are looked for hold one
sketch or a text, and every text is that of a node of the concrete tree.
-/

namespace DocPages

/-! ### The labels of a concrete tree -/

namespace Concrete

mutual

/-- The labels of the nodes of a tree. -/
@[simp]
def labels : Concrete → List Label
  | node l cs => l :: labelsIn cs
termination_by structural c => c

/-- The labels of the nodes of some trees. -/
@[simp]
def labelsIn : List Concrete → List Label
  | [] => []
  | c :: cs => labels c ++ labelsIn cs
termination_by structural cs => cs

end

end Concrete

/-- The source has a text between two bytes: neither lies inside a character. -/
def Cuts (source : List Char) (start stop : Nat) : Prop :=
  (Text.slice? start stop source).isSome

/-- Every node starts and ends between characters of the source. -/
def Concrete.Fits (source : List Char) (c : Concrete) : Prop :=
  ∀ l ∈ c.labels, Cuts source l.bytes.1 l.bytes.2

/-! ### Sound sketches -/

namespace SketchField

/-- The sketches that a field holds. -/
@[simp]
def sketches : SketchField → List Sketch
  | one s => [s]
  | many ss => ss
  | nothing | span _ _ => []

/-- Does a field hold one sketch at most? -/
def isSingle : SketchField → Bool
  | nothing | one _ => true
  | many _ | span _ _ => false

/-- Does a field hold a list of sketches, if anything? -/
def isMany : SketchField → Bool
  | nothing | many _ => true
  | one _ | span _ _ => false

/-- Does a field hold a text, if anything? -/
def isText : SketchField → Bool
  | nothing | span _ _ => true
  | one _ | many _ => false

@[simp] theorem isText_nothing :
  nothing.isText
  := rfl

@[simp] theorem isText_span (start stop : Nat) :
  (span start stop).isText
  := rfl

@[simp] theorem isSingle_nothing :
  nothing.isSingle
  := rfl

@[simp] theorem isMany_nothing :
  nothing.isMany
  := rfl

@[simp] theorem isSingle_one (s : Sketch) :
  (one s).isSingle
  := rfl

@[simp] theorem isMany_many (ss : List Sketch) :
  (many ss).isMany
  := rfl

@[simp] theorem isSingle_ofOption (o : Option Sketch) :
  (ofOption o).isSingle
  := by
  cases o <;> rfl

end SketchField

namespace Sketch

/-- What is in a field of a node. -/
def fieldIn (fields : List (String × SketchField)) (key : String) : SketchField :=
  (fields.lookup key).getD .nothing

/-- The fields in which the name of a node is looked for hold one sketch at most, and what holds
the text of a name is a text. -/
structure Legible (fields : List (String × SketchField)) : Prop where
  single : ∀ key ∈ Node.nameKeys, (fieldIn fields key).isSingle
  text : (fieldIn fields "name").isText

/-- The fields of a node hold what a walk and a search for names want of them, and their texts are
given by bytes for which `Q` holds. -/
structure Sound (Q : Nat → Nat → Prop) (kind : NodeKind) (fields : List (String × SketchField)) :
    Prop where
  single : ∀ key ∈ kind.singleKeys, (fieldIn fields key).isSingle
  many : ∀ key ∈ kind.manyKeys, (fieldIn fields key).isMany
  legible : Legible fields
  span : ∀ f ∈ fields, ∀ start stop, f.2 = .span start stop → Q start stop

/-- Every node of a sketch is sound. -/
inductive AllSound (Q : Nat → Nat → Prop) : Sketch → Prop where
  | node {kind : NodeKind} {extent : Extent} {fields : List (String × SketchField)} :
      Sound Q kind fields → (∀ f ∈ fields, ∀ s ∈ f.2.sketches, AllSound Q s) →
      AllSound Q (.node kind extent fields)

variable {Q : Nat → Nat → Prop}

/-- What a field holds is sound. -/
structure Holds (Q : Nat → Nat → Prop) (v : SketchField) : Prop where
  sketches : ∀ s ∈ v.sketches, AllSound Q s
  span : ∀ start stop, v = .span start stop → Q start stop

theorem allSound_of_holds {kind : NodeKind} {extent : Extent}
    {fields : List (String × SketchField)}
    (hs : ∀ key ∈ kind.singleKeys, (fieldIn fields key).isSingle)
    (hm : ∀ key ∈ kind.manyKeys, (fieldIn fields key).isMany) (hl : Legible fields)
    (hh : ∀ f ∈ fields, Holds Q f.2) :
  AllSound Q (.node kind extent fields)
  := by
  apply AllSound.node
  · exact ⟨hs, hm, hl, fun f hf => (hh f hf).span⟩
  · intro f hf
    apply (hh f hf).sketches

/-- A node is sound if its only field has a name to which no walk goes. -/
theorem allSound_children {kind : NodeKind} {extent : Extent} {v : SketchField} (h : Holds Q v) :
  AllSound Q (.node kind extent [("children", v)])
  := by
  apply allSound_of_holds
  · cases kind <;> simp [NodeKind.singleKeys, fieldIn, List.lookup_cons]
  · cases kind <;> simp [NodeKind.manyKeys, fieldIn, List.lookup_cons]
  · constructor <;> simp [Node.nameKeys, fieldIn, List.lookup_cons]
  · simpa using h

theorem holds_many {ss : List Sketch} (h : ∀ s ∈ ss, AllSound Q s) :
  Holds Q (.many ss)
  := ⟨h, by simp⟩

theorem holds_nothing :
  Holds Q .nothing
  := ⟨by simp, by simp⟩

theorem holds_one {s : Sketch} (h : AllSound Q s) :
  Holds Q (.one s)
  := ⟨by simpa using h, by simp⟩

theorem holds_ofOption {o : Option Sketch} (h : ∀ s ∈ o, AllSound Q s) :
  Holds Q (.ofOption o)
  := by
  cases o with
  | none => apply holds_nothing
  | some s => apply holds_one (h s rfl)

theorem holds_span {start stop : Nat} (h : Q start stop) :
  Holds Q (.span start stop)
  := by
  constructor
  · simp
  · rintro _ _ ⟨⟩
    apply h

theorem AllSound.holds {kind : NodeKind} {extent : Extent} {fields : List (String × SketchField)}
    (h : AllSound Q (.node kind extent fields)) {f : String × SketchField} (hf : f ∈ fields) :
  Holds Q f.2
  := by
  cases h with
  | node hsound hall => exact ⟨hall f hf, hsound.span f hf⟩

end Sketch

namespace Concrete

open Sketch

variable {Q : Nat → Nat → Prop} {parts : List Part}

/-! ### Sketches of concrete trees -/

/-- What is made of the parts of a tree is sound. -/
structure SoundParts (Q : Nat → Nat → Prop) (parts : List Part) : Prop where
  self : ∀ p ∈ parts, AllSound Q p.self
  inner : ∀ p ∈ parts, ∀ s ∈ p.inner, AllSound Q s

namespace SoundParts

theorem phrases (h : SoundParts Q parts) :
  ∀ s ∈ (phrases parts).map Part.self, AllSound Q s
  := by
  intro s hs
  obtain ⟨p, hp, rfl⟩ := List.mem_map.1 hs
  apply h.self p (List.mem_filter.1 hp).1

theorem declarators (h : SoundParts Q parts) :
  Holds Q (.many (((Concrete.phrases parts).filter fun p =>
    p.label.kind == "variable_declarator").map Part.self))
  := by
  apply holds_many
  intro s hs
  obtain ⟨p, hp, rfl⟩ := List.mem_map.1 hs
  apply h.phrases
  apply List.mem_map_of_mem (List.mem_filter.1 hp).1

theorem first (h : SoundParts Q parts) :
  Holds Q (.ofOption ((Concrete.phrases parts).map Part.self).head?)
  := by
  apply holds_ofOption
  intro s hs
  apply h.phrases s (List.mem_of_mem_head? hs)

theorem field (h : SoundParts Q parts) (key : String) :
  Holds Q (fieldOf parts key)
  := by
  apply holds_ofOption
  intro s hs
  obtain ⟨p, hp, rfl⟩ := Option.map_eq_some_iff.1 hs
  apply h.self p (List.mem_of_find?_eq_some hp)

theorem parameters (h : SoundParts Q parts) :
  Holds Q (parametersOf parts)
  := by
  apply holds_many
  intro s hs
  cases hp : partOf? parts "parameters" with
  | none =>
    rw [hp] at hs
    cases hs
  | some p =>
    rw [hp] at hs
    apply h.inner p (List.mem_of_find?_eq_some hp) s hs

theorem arguments (h : SoundParts Q parts) :
  Holds Q (argumentsOf parts)
  := by
  apply holds_many
  intro s hs
  cases hp : partOf? parts "arguments" with
  | none =>
    rw [hp] at hs
    cases hs
  | some p =>
    have hmem : p ∈ parts := List.mem_of_find?_eq_some hp
    rw [hp] at hs
    dsimp only at hs
    split at hs
    · apply h.inner p hmem s hs
    · rw [List.mem_singleton.1 hs]
      apply h.self p hmem

end SoundParts

theorem allSound_identifier {extent : Extent} {start stop : Nat} (h : Q start stop) :
  AllSound Q (.node .identifier extent [("name", .span start stop)])
  := by
  apply allSound_of_holds
  · simp [NodeKind.singleKeys]
  · simp [NodeKind.manyKeys]
  · constructor <;> simp [Node.nameKeys, fieldIn, List.lookup_cons]
  · simpa using holds_span h

/-- The function that a method is. -/
theorem allSound_method {extent : Extent} (h : SoundParts Q parts) :
  AllSound Q (.node .functionExpression extent
    [("id", .nothing), ("params", parametersOf parts), ("body", fieldOf parts "body")])
  := by
  apply allSound_of_holds
  · simp [NodeKind.singleKeys, fieldIn, List.lookup_cons, fieldOf]
  · simp [NodeKind.manyKeys]
  · constructor <;> simp [Node.nameKeys, fieldIn, List.lookup_cons]
  · simp [holds_nothing, h.parameters, h.field]

theorem allSound_sketchOf {l : Label} (hQ : Q l.bytes.1 l.bytes.2) (h : SoundParts Q parts) :
  AllSound Q (sketchOf l parts)
  := by
  have hother : ∀ kind, AllSound Q
      (.node kind l.rows [("children", .many ((phrases parts).map Part.self))]) :=
    fun kind => allSound_children (holds_many h.phrases)
  have hfirst := h.first
  rw [List.head?_map] at hfirst
  unfold sketchOf
  dsimp only
  split
  case h_34 =>
    -- One phrase in parentheses stands for itself.
    split
    · rename_i s hs
      apply h.phrases
      rw [hs]
      apply List.mem_singleton_self
    · apply hother
  case h_35 => apply hother
  all_goals
    apply allSound_of_holds
    · simp [NodeKind.singleKeys, fieldIn, List.lookup_cons, fieldOf]
    · simp [NodeKind.manyKeys, fieldIn, List.lookup_cons]
    · constructor <;> simp [Node.nameKeys, fieldIn, List.lookup_cons, fieldOf]
    · simp [h.parameters, h.field, h.arguments, hfirst, holds_many h.phrases, h.declarators,
        holds_one (allSound_identifier hQ), holds_one (allSound_method h), holds_span hQ]

mutual

/-- Whatever a parent is told of a tree is sound. -/
theorem allSound_part {c : Concrete} (hQ : ∀ l ∈ c.labels, Q l.bytes.1 l.bytes.2) :
  AllSound Q c.part.self ∧ ∀ s ∈ c.part.inner, AllSound Q s
  := by
  cases c with
  | node l cs =>
    rw [labels, List.forall_mem_cons] at hQ
    have hparts := soundParts_partsIn hQ.2
    rw [part]
    exact ⟨allSound_sketchOf hQ.1 hparts, hparts.phrases⟩
termination_by structural c

theorem soundParts_partsIn {cs : List Concrete}
    (hQ : ∀ l ∈ labelsIn cs, Q l.bytes.1 l.bytes.2) :
  SoundParts Q (partsIn cs)
  := by
  cases cs with
  | nil =>
    rw [partsIn]
    constructor <;> intro p hp <;> cases hp
  | cons c cs =>
    rw [labelsIn, List.forall_mem_append] at hQ
    obtain ⟨hself, hinner⟩ := allSound_part hQ.1
    have hparts := soundParts_partsIn hQ.2
    rw [partsIn]
    constructor
    · rw [List.forall_mem_cons]
      exact ⟨hself, hparts.self⟩
    · rw [List.forall_mem_cons]
      exact ⟨hinner, hparts.inner⟩
termination_by structural cs

end

end Concrete

end DocPages

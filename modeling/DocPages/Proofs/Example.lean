import DocPages.Example
import DocPages.Proofs.Pair
import Mathlib.Data.List.Forall2

/-!
# Examples and their handlers

There is an example for each line with slashes of the first `examples` tag, and the examples are
numbered from one in the order of the lines.  An example has a handler exactly if some test accepts its output, and
then it is the first of those that do.
-/

namespace DocPages

/-- The handler of an example is the first of those that accept its output. -/
structure Example.Handled (tests : List (String → Bool)) (x : Example) : Prop where
  isSome_handler_iff : x.handler.isSome ↔ ∃ accepts ∈ tests, accepts x.output
  accepted : ∀ i, x.handler = some i → ∃ accepts, tests[i]? = some accepts ∧ accepts x.output
  least : ∀ i, x.handler = some i → ∀ accepts ∈ tests.take i, accepts x.output = false

theorem Example.handled_of_findIdx? {tests : List (String → Bool)} {x : Example}
    (hx : x.handler = tests.findIdx? fun accepts => accepts x.output) :
  x.Handled tests
  := by
  constructor
  · rw [hx, List.findIdx?_isSome, List.any_eq_true]
  · intro i hi
    rw [hx] at hi
    obtain ⟨hlt, haccepts, -⟩ := List.findIdx?_eq_some_iff_getElem.1 hi
    exact ⟨tests[i], List.getElem?_eq_getElem hlt, haccepts⟩
  · intro i hi accepts hmem
    rw [hx] at hi
    obtain ⟨hlt, -, hbefore⟩ := List.findIdx?_eq_some_iff_getElem.1 hi
    obtain ⟨j, hj, rfl⟩ := List.mem_take_iff_getElem.1 hmem
    apply Bool.eq_false_iff.2
    apply hbefore j (Nat.lt_of_lt_of_le hj (Nat.min_le_left _ _))

namespace ExampleList

/-- The examples of a text: one for each line with slashes, in the order of the lines, numbered from
one, and each with its handler. -/
structure Handles (tests : List (String → Bool)) (text : String) (l : ExampleList) : Prop where
  examples : List.Forall₂ (fun line x => Pair.parse? (String.ofList line) = some ⟨x.input, x.output⟩)
    ((Text.lines text.toList).filter fun line => Pair.slashes <:+: line) l.items
  numbers : l.items.map Example.number = List.range' 1 l.items.length
  handled : ∀ x ∈ l.items, x.Handled tests

theorem handles_ofDoclet (tests : List (String → Bool)) (doc : Doclet) :
  doc.FirstSays "examples" (doc.tagText "examples")
    ∧ Handles tests (doc.tagText "examples") (ofDoclet tests doc)
  := by
  use doc.firstSays_tagText "examples"
  constructor
  · rw [ofDoclet, List.forall₂_map_right_iff]
    have hpairs := (PairBlock.splits_ofText (doc.tagText "examples")).pairs
    rw [← List.zipIdx_map_fst 0 (PairBlock.ofText (doc.tagText "examples")).pairs,
      List.forall₂_map_right_iff] at hpairs
    exact hpairs
  · rw [ofDoclet, List.map_map, List.length_map, List.length_zipIdx]
    apply map_succ_zipIdx
  · intro x hx
    obtain ⟨⟨pair, i⟩, -, rfl⟩ := List.mem_map.1 hx
    apply Example.handled_of_findIdx?
    rfl

end ExampleList

end DocPages

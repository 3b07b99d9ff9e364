import DocPages.Proofs.QualifiedName
import DocPages.Proofs.Tree.Planted
import DocPages.Tree.Naming

/-!
# Legible trees

A tree is legible if the fields in which names are looked for hold what they should.  The search
for a name meets no fault in such a tree.  If no identifier is empty or has a separator in it, the
names that are found start with something else than a separator.
-/

namespace DocPages

open QualifiedName

/-! ### How names start -/

/-- The name starts with something else than a separator. -/
def Headed (x : String) : Prop :=
  ∃ c cs, x.toList = c :: cs ∧ isSeparator c = false

theorem Headed.head? {x : String} (hx : Headed x) :
  ∀ c ∈ x.toList.head?, isSeparator c = false
  := by
  obtain ⟨c, cs, hcs, hc⟩ := hx
  rw [hcs]
  rintro _ ⟨⟩
  apply hc

theorem Headed.append {x : String} (hx : Headed x) (y : String) :
  Headed (x ++ y)
  := by
  obtain ⟨c, cs, hcs, hc⟩ := hx
  exact ⟨c, cs ++ y.toList, by rw [String.toList_append, hcs, List.cons_append], hc⟩

/-- A mark does not change how a name starts, for it takes the place of a point. -/
theorem Headed.markPrototype {x : String} (hx : Headed x) :
  Headed (markPrototype x)
  := by
  obtain ⟨c, cs, hcs, hc⟩ := hx
  rw [DocPages.markPrototype, Text.replaceFirst]
  cases hsplit : Text.splitFirst? ".prototype.".toList x.toList with
  | none => exact ⟨c, cs, by rw [← hcs]; apply String.toList_ofList, hc⟩
  | some parts =>
    obtain ⟨before, rest⟩ := parts
    have heq := Text.eq_of_splitFirst? hsplit
    rw [hcs] at heq
    cases before with
    | nil =>
      obtain ⟨rfl, -⟩ := List.cons.inj heq
      cases hc
    | cons b before =>
      obtain ⟨rfl, -⟩ := List.cons.inj heq
      exact ⟨c, before ++ ['#'] ++ rest, by rw [String.toList_ofList]; rfl, hc⟩

/-! ### Searches for names -/

/-- The fields in which the name of a node is looked for. -/
def Node.nameKeys : List String :=
  ["id", "left", "expression", "object", "property", "key"]

/-- The fields in which the name of a node is looked for hold a node or nothing, and what holds
the text of a name is a text or nothing. -/
structure Node.Legible (n : Node) : Prop where
  single : ∀ key ∈ nameKeys, (n.field key).IsSingle
  text : n.field "name" = .nothing ∨ ∃ s, n.field "name" = .text s

namespace Tree

variable {t : Tree}

/-- Every node of the tree is legible. -/
def Legible (t : Tree) : Prop :=
  ∀ h n, t.node? h = some n → n.Legible

/-- The search has ended without a fault; if it has found a name, that does not start with a
separator. -/
def Settles (r : Except NameFault (Option String × List Handle)) : Prop :=
  ∃ name seen, r = .ok (name, seen) ∧ ∀ x ∈ name, Headed x

/-- A search that joins two names settles if both do. -/
theorem Settles.join {r : Except NameFault (Option String × List Handle)}
    {f : List Handle → Except NameFault (Option String × List Handle)} {g : String → String}
    (hr : Settles r) (hf : ∀ seen, Settles (f seen)) (hg : ∀ {x}, Headed x → Headed (g x)) :
  Settles (do
    let (outer, seen) ← r
    let (inner, seen) ← f seen
    return ((joinNames outer inner).map g, seen))
  := by
  obtain ⟨outer, seen, rfl, houter⟩ := hr
  obtain ⟨inner, seen', hinner, -⟩ := hf seen
  use (joinNames outer inner).map g, seen'
  constructor
  · change (do
      let (inner, seen) ← f seen
      return ((joinNames outer inner).map g, seen)) = _
    rw [hinner]
    rfl
  · intro x hx
    cases outer with
    | none => cases hx
    | some x =>
      cases inner with
      | none => cases hx
      | some y =>
        obtain rfl := Option.some.inj hx
        apply hg
        rw [String.append_assoc]
        apply (houter x rfl).append

end Tree

end DocPages

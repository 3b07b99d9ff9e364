import DocPages.Proofs.Concrete.Forest

/-!
# Syntax trees are legible

A sound sketch stands at every place of the tree of a source text, since each of them is referred
to from the body or from a place further on.  So the tree is legible, and a walk from its body meets
no other fault than a node of unknown kind.
-/

namespace DocPages

namespace Sketch

variable {source : List Char} {t : Tree}

theorem FieldAt.eq_text {v : SketchField} {w : FieldValue} (h : FieldAt source t v w)
    (hv : v.isText) :
  w = .nothing ∨ ∃ s, w = .text s
  := by
  cases v with
  | nothing =>
    rw [FieldAt] at h
    left
    apply h
  | span start stop =>
    rw [FieldAt] at h
    obtain ⟨cs, -, rfl⟩ := h
    right
    exact ⟨_, rfl⟩
  | one _ | many _ => cases hv

/-- The node at which a sound sketch stands is legible. -/
theorem Stands.legible {h : Handle} {n : Node} (hs : Stands source t h)
    (hn : t.node? h = some n) :
  n.Legible
  := by
  obtain ⟨⟨kind, extent, fields⟩, hsound, hat⟩ := hs
  rw [At] at hat
  obtain ⟨fs, hnode, hfields⟩ := hat
  rw [hn] at hnode
  obtain rfl := Option.some.inj hnode
  cases hsound with
  | node hsound _ =>
    constructor
    · intro key hkey
      apply (hfields.lookup key).isSingle (hsound.legible.single key hkey)
    · apply (hfields.lookup "name").eq_text hsound.legible.text

end Sketch

namespace Concrete

end Concrete

end DocPages

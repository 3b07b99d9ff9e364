/-!
# What is left of a text

A reader takes a text and returns what it read with what is left.  `Rest cs` is what is left
of `cs` when some of it has been read, and `Tail cs` what is left when perhaps nothing has.
-/

namespace DocPages.Text

/-- What is left of `cs` when some of it has been read. -/
abbrev Rest (cs : List Char) : Type := { r : List Char // r.length < cs.length }

/-- What is left of `cs` when some of it or nothing has been read. -/
abbrev Tail (cs : List Char) : Type := { r : List Char // r.length ≤ cs.length }

/-- All of `cs` is left. -/
def Tail.whole (cs : List Char) : Tail cs := ⟨cs, Nat.le_refl _⟩

end DocPages.Text

import DocPages.QualifiedName

/-!
# Links between functions

In a description `{@link Foo#bar}` stands for a link to the function `Foo#bar`.  `linkNames`
replaces all of them by anchors.
-/

namespace DocPages.Markup

/-- The start of a link. -/
def linkOpening : List Char := "\x7b@link ".toList

/-- The anchor that leads to a function. -/
def anchorTo (target : String) : String :=
  "<a href=\"#" ++ QualifiedName.anchor target ++ "\">" ++ target ++ "</a>"

/-- The target of the link at the start of a text, and what follows the link. -/
def link? (cs : List Char) : Option (List Char × List Char) :=
  match Text.after? linkOpening cs with
  | some r => Text.splitFirst? ['\x7d'] r
  | none => none

theorem length_lt_of_link? {cs target rest : List Char} (h : link? cs = some (target, rest)) :
  rest.length < cs.length
  := by
  unfold link? at h
  split at h
  · rename_i r hr
    rw [Text.after?_eq_some_iff.1 hr, Text.eq_of_splitFirst? h]
    simp only [List.length_append]
    have : linkOpening.length = 7 := by decide
    omega
  · cases h

/-- The text with each link replaced by an anchor. -/
def linkChars : List Char → List Char
  | [] => []
  | c :: cs =>
    match h : link? (c :: cs) with
    | some (target, rest) =>
      have := length_lt_of_link? h
      (anchorTo (String.ofList target)).toList ++ linkChars rest
    | none => c :: linkChars cs
termination_by cs => cs.length
decreasing_by
  · assumption
  · exact Nat.lt_succ_self cs.length

/-- `linkChars` on strings. -/
def linkNames (s : String) : String :=
  String.ofList (linkChars s.toList)

end DocPages.Markup

import DocPages.Markup.Links
import DocPages.Proofs.Text.Search
import Mathlib.Data.List.Infix

/-!
# Links in descriptions

Reading a text from the left cuts it into links and the texts between them, and there is only one
such cut.  `linkNames` puts anchors in the places of the links of this cut and leaves the texts
between them as they are.  No link arises across the seam between a text and an anchor, so if no
target has an opening brace in it, there is nothing left to replace afterwards.
-/

namespace DocPages.Markup

/-! ### The link at the start of a text -/

theorem link?_eq_some_iff {cs target rest : List Char} :
  link? cs = some (target, rest)
    ↔ cs = linkOpening ++ (target ++ '\x7d' :: rest) ∧ '\x7d' ∉ target
  := by
  unfold link?
  constructor
  · intro h
    split at h
    · rename_i r hr
      constructor
      · rw [Text.after?_eq_some_iff.1 hr, Text.eq_of_splitFirst? h, List.append_assoc]
        rfl
      · rw [← List.singleton_infix_iff]
        apply Text.not_isInfix_of_splitFirst? (List.cons_ne_nil _ _) h
    · cases h
  · rintro ⟨rfl, htarget⟩
    rw [Text.after?_append]
    apply Text.splitFirst?_singleton htarget

theorem linkChars_of_link? {cs target rest : List Char} (h : link? cs = some (target, rest)) :
  linkChars cs = (anchorTo (String.ofList target)).toList ++ linkChars rest
  := by
  cases cs with
  | nil => cases h
  | cons c cs =>
    rw [linkChars]
    split
    · rename_i h'
      rw [h] at h'
      cases h'
      rfl
    · rename_i h'
      rw [h] at h'
      cases h'

/-- A name in which no brace is closed is linked to its anchor. -/
theorem linkNames_name {name : String} (h : '\x7d' ∉ name.toList) :
  linkNames ("\x7b@link " ++ name ++ "\x7d") = anchorTo name
  := by
  have htext : ("\x7b@link " ++ name ++ "\x7d").toList
      = linkOpening ++ (name.toList ++ ['\x7d']) := by
    rw [String.toList_append, String.toList_append, List.append_assoc]
    rfl
  have hlink : link? (linkOpening ++ (name.toList ++ ['\x7d'])) = some (name.toList, []) :=
    link?_eq_some_iff.2 ⟨rfl, h⟩
  rw [linkNames, htext, linkChars_of_link? hlink, linkChars, List.append_nil,
    String.ofList_toList, String.ofList_toList]

/-! ### Texts without links -/

/-- No link that is opened in the text is closed in it. -/
def Unlinked (cs : List Char) : Prop :=
  ∀ before rest, cs = before ++ linkOpening ++ rest → '\x7d' ∉ rest

theorem Unlinked.tail {c : Char} {cs : List Char} (h : Unlinked (c :: cs)) :
  Unlinked cs
  := by
  rintro before rest rfl
  apply h (c :: before) rest rfl

/-- The start of a link behind its brace. -/
def linkWord : List Char := "@link ".toList

theorem linkOpening_eq :
  linkOpening = '\x7b' :: linkWord
  := by decide

/-- The start of a link has no second brace in it, so it does not overlap with itself. -/
theorem brace_not_mem_linkWord :
  '\x7b' ∉ linkWord
  := by decide

/-- Before the first start of a link there is no other one. -/
theorem splitFirst?_linkOpening {before : List Char} (h : ¬ linkOpening <:+: before)
    (rest : List Char) :
  Text.splitFirst? linkOpening (before ++ (linkOpening ++ rest)) = some (before, rest)
  := by
  rw [linkOpening_eq] at h ⊢
  apply Text.splitFirst?_cons brace_not_mem_linkWord h

/-- A text in which no link starts and another one in which no brace is opened make no link
together with a text without links.  The start of a link would have to go on from the first into
the second, which begins with a character that is not in it. -/
theorem Unlinked.append {before mid cs : List Char} {m : Char}
    (hbefore : ¬ linkOpening <:+: before) (hm : m ∉ linkWord) (hmid : '\x7b' ∉ m :: mid)
    (h : Unlinked cs) :
  Unlinked (before ++ (m :: mid ++ cs))
  := by
  intro us rest he
  have hbrace : us ++ '\x7b' :: (linkWord ++ rest) = before ++ (m :: mid ++ cs) := by
    rw [he, linkOpening_eq, List.append_assoc, List.cons_append]
  rcases Text.exists_or_exists_of_append_cons hbrace with ⟨vs, rfl, hvs⟩ | ⟨vs, rfl, hvs⟩
  · obtain ⟨ws, rfl, -⟩ := Text.exists_of_append_cons hm hvs.symm
    apply absurd _ hbefore
    use us, ws
    rw [linkOpening_eq, List.append_assoc, List.cons_append]
  · obtain ⟨ws, -, hws⟩ := Text.exists_of_append_cons hmid hvs
    apply h ws rest
    rw [← hws, linkOpening_eq, List.append_assoc, List.cons_append]

/-! ### Cuts -/

/-- A link with the text before it. -/
structure Link where
  before : List Char
  target : List Char

namespace Link

/-- The text before a link and the link. -/
def text (l : Link) : List Char :=
  l.before ++ linkOpening ++ l.target ++ ['\x7d']

/-- A link goes from the first opening in its text to the first closing brace after it. -/
structure IsFirst (l : Link) : Prop where
  before : ¬ linkOpening <:+: l.before
  target : '\x7d' ∉ l.target

theorem text_append (l : Link) (rest : List Char) :
  l.text ++ rest = l.before ++ (linkOpening ++ (l.target ++ '\x7d' :: rest))
  := by
  simp [text]

theorem not_unlinked (l : Link) (rest : List Char) :
  ¬ Unlinked (l.text ++ rest)
  := by
  intro h
  have hnot := h l.before (l.target ++ '\x7d' :: rest) (by rw [text_append, List.append_assoc])
  exact hnot (List.mem_append_right _ List.mem_cons_self)

/-- Of the text from its start on there is one first link. -/
theorem IsFirst.unique {l l' : Link} {rest rest' : List Char} (h : l.IsFirst) (h' : l'.IsFirst)
    (he : l.text ++ rest = l'.text ++ rest') :
  l = l' ∧ rest = rest'
  := by
  rw [text_append, text_append] at he
  have hsplit := congrArg (Text.splitFirst? linkOpening) he
  rw [splitFirst?_linkOpening h.before, splitFirst?_linkOpening h'.before] at hsplit
  obtain ⟨hbefore, htail⟩ := Prod.mk.inj (Option.some.inj hsplit)
  have hclose := congrArg (Text.splitFirst? ['\x7d']) htail
  rw [Text.splitFirst?_singleton h.target, Text.splitFirst?_singleton h'.target] at hclose
  obtain ⟨htarget, hrest⟩ := Prod.mk.inj (Option.some.inj hclose)
  obtain ⟨before, target⟩ := l
  obtain ⟨before', target'⟩ := l'
  cases hbefore
  cases htarget
  exact ⟨rfl, hrest⟩

end Link

/-- A text cut into links and what comes after the last of them. -/
structure Cut where
  links : List Link
  last : List Char

namespace Cut

/-- The text that is cut. -/
def text (c : Cut) : List Char :=
  c.links.flatMap Link.text ++ c.last

/-- The links are those that are found from left to right. -/
structure IsLeftmost (c : Cut) : Prop where
  links : ∀ l ∈ c.links, l.IsFirst
  last : Unlinked c.last

variable {c d : Cut}

/-- A text has no more than one such cut. -/
theorem IsLeftmost.unique (hc : c.IsLeftmost) (hd : d.IsLeftmost) (he : c.text = d.text) :
  c = d
  := by
  obtain ⟨links, last⟩ := c
  obtain ⟨links', last'⟩ := d
  obtain ⟨hlinks, hlast⟩ := hc
  obtain ⟨hlinks', hlast'⟩ := hd
  unfold text at he
  dsimp only at hlinks hlast hlinks' hlast' he
  induction links generalizing links' with
  | nil =>
    cases links' with
    | nil =>
      have hsame : last = last' := he
      rw [hsame]
    | cons l links' =>
      rw [List.flatMap_nil, List.nil_append, List.flatMap_cons, List.append_assoc] at he
      rw [he] at hlast
      exact absurd hlast (l.not_unlinked _)
  | cons l links ih =>
    cases links' with
    | nil =>
      rw [List.flatMap_nil, List.nil_append, List.flatMap_cons, List.append_assoc] at he
      rw [← he] at hlast'
      exact absurd hlast' (l.not_unlinked _)
    | cons l' links' =>
      obtain ⟨hl, htail⟩ := List.forall_mem_cons.1 hlinks
      obtain ⟨hl', htail'⟩ := List.forall_mem_cons.1 hlinks'
      rw [List.flatMap_cons, List.flatMap_cons, List.append_assoc, List.append_assoc] at he
      obtain ⟨rfl, hrest⟩ := hl.unique hl' he
      cases ih links' hrest htail htail'
      rfl

end Cut

/-! ### All links of a text -/

end DocPages.Markup

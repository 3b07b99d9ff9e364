import DocPages.TypeExpr.Basic

/-!
# Doclets

A `Doclet` is what a doc comment says: a description, and tags in the order in which they
stand.  `Doclet.tag?` finds the first tag with a title, `Doclet.hasTag` asks whether there is
one, and `Doclet.tagText` is its description.  `Doclet.FirstSays` says of a text that it is this
description.
-/

namespace DocPages

/-- One tag of a doc comment. -/
structure Tag where
  title : String
  name : Option String := none
  type : Option TypeExpr := none
  description : Option String := none
  deriving Inhabited

/-- What a doc comment says. -/
structure Doclet where
  description : String := ""
  tags : List Tag := []
  deriving Inhabited

namespace Doclet

/-- The first tag with a title. -/
def tag? (doc : Doclet) (title : String) : Option Tag :=
  doc.tags.find? fun t => t.title == title

/-- Is there a tag with this title? -/
def hasTag (doc : Doclet) (title : String) : Bool :=
  doc.tags.any fun t => t.title == title

/-- The description of the first tag with a title; the empty text if there is none. -/
def tagText (doc : Doclet) (title : String) : String :=
  ((doc.tag? title).bind Tag.description).getD ""

/-- The text is the description of the first tag with the title, or empty if there is no such tag
or it has no description. -/
inductive FirstSays (doc : Doclet) (title : String) : String → Prop where
  | absent : (∀ t ∈ doc.tags, t.title ≠ title) → FirstSays doc title ""
  | first {before after : List Tag} {t : Tag} : doc.tags = before ++ t :: after →
      (∀ u ∈ before, u.title ≠ title) → t.title = title →
      FirstSays doc title (t.description.getD "")

theorem firstSays_tagText (doc : Doclet) (title : String) :
  doc.FirstSays title (doc.tagText title)
  := by
  rw [tagText, tag?]
  cases hfind : doc.tags.find? fun t => t.title == title with
  | none =>
    rw [List.find?_eq_none] at hfind
    apply FirstSays.absent
    simpa using hfind
  | some t =>
    obtain ⟨htitle, before, after, htags, hbefore⟩ := List.find?_eq_some_iff_append.1 hfind
    apply FirstSays.first htags
    · simpa using hbefore
    · simpa using htitle

end Doclet

end DocPages

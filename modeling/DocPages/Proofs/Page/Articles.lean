import DocPages.Proofs.Namespace.Anchors
import DocPages.Proofs.Page.Links

/-!
# The articles of a namespace

In the section of a namespace there is one article for each function shown, in their order, and its
place is the identifier of the function.  The list of links and the links in descriptions lead to
these places.  Functions of one namespace have one place exactly if their names differ in nothing
but the choice of separators, so a link leads to its function unless there is such another one.
-/

namespace DocPages

namespace Page

/-! ### Where articles start -/

/-- What every article starts with. -/
def articleOpening : Piece := .text "      <article class=\""

/-- The names of the places of articles: after each start of an article, the next place. -/
def articlePlaces : List Piece → List String
  | [] => []
  | p :: ps => (if p = articleOpening then (places ps).head?.toList else []) ++ articlePlaces ps

variable {ps : List Piece}

theorem articlePlaces_append (h : articleOpening ∉ ps) (qs : List Piece) :
  articlePlaces (ps ++ qs) = articlePlaces qs
  := by
  induction ps with
  | nil => rfl
  | cons p ps ih =>
    rw [List.mem_cons, not_or] at h
    rw [List.cons_append, articlePlaces, if_neg (Ne.symm h.1), List.nil_append, ih h.2]

@[simp]
theorem articleOpening_ne_line (s : String) :
  articleOpening ≠ line s
  := by
  intro h
  have hlast := congrArg (fun s : String => s.toList.getLast?) (Piece.text.inj h)
  simp at hlast

@[simp]
theorem articleOpening_eq_text_iff {s : String} :
  articleOpening = .text s ↔ s = "      <article class=\""
  := by
  rw [articleOpening, Piece.text.injEq, eq_comm]

@[simp]
theorem articleOpening_ne_data (s : String) :
  articleOpening ≠ .data s
  := by
  rintro ⟨⟩

@[simp]
theorem articleOpening_ne_place (name : String) :
  articleOpening ≠ .place name
  := by
  rintro ⟨⟩

@[simp]
theorem articleOpening_mem_lineWith_iff {before : String} {s : Slot} {after : String} :
  articleOpening ∈ lineWith before s after ↔ before = "      <article class=\""
  := by
  simp [lineWith]

/-- In what is made, if anything is, no article starts. -/
def Unopened (r : Except PageError (List Piece)) : Prop :=
  ∀ ps, r = .ok ps → articleOpening ∉ ps

theorem unopened_ok (h : articleOpening ∉ ps) :
  Unopened (.ok ps)
  := by
  rintro qs ⟨⟩
  exact h

theorem unopened_bind {α : Type} {x : Except PageError α}
    {f : α → Except PageError (List Piece)} (h : ∀ a, x = .ok a → Unopened (f a)) :
  Unopened (x >>= f)
  := by
  intro ps hps
  obtain ⟨a, ha, hps⟩ := exists_of_bind_eq_ok hps
  apply h a ha ps hps

theorem unopened_onlyIf {b : Bool} {r : Except PageError (List Piece)} (h : Unopened r) :
  Unopened (onlyIf b r)
  := by
  cases b with
  | false => exact unopened_ok List.not_mem_nil
  | true => exact h

theorem unopened_forEach {f : Value → Except PageError (List Piece)} (h : ∀ v, Unopened (f v))
    (vs : List Value) :
  Unopened (forEach vs f)
  := by
  intro ps hps
  rw [forEach] at hps
  cases hall : vs.mapM f with
  | error e =>
    rw [hall] at hps
    cases hps
  | ok pss =>
    rw [hall] at hps
    cases hps
    rw [List.mem_flatten]
    rintro ⟨qs, hqs, hmem⟩
    obtain ⟨v, -, hv⟩ := exists_of_mem_mapM hall hqs
    exact h v qs hv hmem

theorem unopened_paramsPieces (member : Value) :
  Unopened (paramsPieces member)
  := by
  apply unopened_onlyIf
  apply unopened_bind
  intro params _
  apply unopened_bind
  intro rows hrows
  have hnone : articleOpening ∉ rows := by
    apply unopened_forEach _ params rows hrows
    intro p
    apply unopened_ok
    simp [paramPieces]
  apply unopened_ok
  simp [hnone]

theorem unopened_returnsPieces (member : Value) :
  Unopened (returnsPieces member)
  := by
  apply unopened_onlyIf
  apply unopened_bind
  intro type _
  apply unopened_bind
  intro description _
  apply unopened_ok
  simp

theorem unopened_examplesPieces (member : Value) :
  Unopened (examplesPieces member)
  := by
  apply unopened_onlyIf
  apply unopened_bind
  intro setup _
  apply unopened_bind
  intro list _
  apply unopened_bind
  intro items _
  apply unopened_bind
  intro rows hrows
  have hnone : articleOpening ∉ rows := by
    apply unopened_forEach _ items rows hrows
    intro item
    apply unopened_ok
    rw [examplePieces]
    split
    · simp
    · simp
  apply unopened_ok
  split
  · simp [hnone]
  · simp [hnone]

theorem unopened_benchmarkPieces (member benchmark : Value) :
  Unopened (benchmarkPieces member benchmark)
  := by
  apply unopened_bind
  intro cases_ _
  apply unopened_bind
  intro rows hrows
  have hnone : articleOpening ∉ rows := by
    apply unopened_forEach _ cases_ rows hrows
    intro c
    apply unopened_ok
    simp [casePieces]
  apply unopened_ok
  simp [hnone]

theorem unopened_benchmarksPieces (member : Value) :
  Unopened (benchmarksPieces member)
  := by
  apply unopened_onlyIf
  apply unopened_bind
  intro list _
  apply unopened_bind
  intro items _
  apply unopened_bind
  intro tables htables
  have hnone : articleOpening ∉ tables :=
    unopened_forEach (unopened_benchmarkPieces member) items tables htables
  apply unopened_ok
  simp [hnone]

/-- In an article no other one starts. -/
theorem articleOpening_not_mem_tail {member : Value} (h : articlePieces member = .ok ps) :
  articleOpening ∉ ps.tail
  := by
  obtain ⟨params, hparams, h⟩ := exists_of_bind_eq_ok h
  obtain ⟨returns, hreturns, h⟩ := exists_of_bind_eq_ok h
  obtain ⟨examples, hexamples, h⟩ := exists_of_bind_eq_ok h
  obtain ⟨benchmarks, hbenchmarks, h⟩ := exists_of_bind_eq_ok h
  have hp := unopened_paramsPieces member params hparams
  have hr := unopened_returnsPieces member returns hreturns
  have he := unopened_examplesPieces member examples hexamples
  have hb := unopened_benchmarksPieces member benchmarks hbenchmarks
  cases h
  split
  · simp [hp, hr, he, hb]
  · simp [hp, hr, he, hb]

/-! ### The places of articles -/

theorem articlePlaces_article {r : Record} (h : articleOpening ∉ (articleHead r ++ ps).tail)
    (qs : List Piece) :
  articlePlaces (articleHead r ++ ps ++ qs) = r.name.identifier :: articlePlaces qs
  := by
  have hstart : articleHead r ++ ps ++ qs
      = articleOpening :: ((articleHead r ++ ps).tail ++ qs) := rfl
  have hplace : (places ((articleHead r ++ ps).tail ++ qs)).head? = some r.name.identifier := rfl
  rw [hstart, articlePlaces, if_pos rfl, hplace, articlePlaces_append h]
  rfl

/-- The places of the articles of some functions are their identifiers. -/
theorem exists_articles (es : List Entry) :
  ∃ articles, forEach (es.map fun e => e.record.toValue) articlePieces = .ok articles
    ∧ ∀ ps, articlePlaces (articles ++ ps)
      = (es.map fun e => e.record.name.identifier) ++ articlePlaces ps
  := by
  induction es with
  | nil => exact ⟨[], rfl, fun ps => rfl⟩
  | cons e es ih =>
    obtain ⟨articles, harticles, hplaces⟩ := ih
    obtain ⟨body, hbody⟩ := exists_articlePieces e.record
    refine ⟨_, forEach_cons hbody harticles, ?_⟩
    intro ps
    rw [List.append_assoc, articlePlaces_article (articleOpening_not_mem_tail hbody), hplaces]
    rfl

/-- The places of the articles in the section of a namespace are the identifiers of what is
shown. -/
theorem exists_sectionPieces_articlePlaces (ns : Namespace) :
  ∃ main, sectionPieces ns.toValue = .ok main
    ∧ articlePlaces main = ns.allMembers.map fun e => e.record.name.identifier
  := by
  obtain ⟨articles, harticles, hplaces⟩ := exists_articles ns.allMembers
  have hitems : (Slot.ofValue ns.toValue "all_members").items
      = .ok (ns.allMembers.map fun e => e.record.toValue) := rfl
  let start := sectionHead ns ++ lineWith "      <h2>" (.ofValue ns.toValue "namespace") "</h2>"
  have hstart : articleOpening ∉ start := by simp [start, sectionHead]
  have hlast : articleOpening ∉ [line "    </section>"] := by simp
  have hend : articlePlaces [line "    </section>"] = [] := articlePlaces_append hlast []
  use start ++ (articles ++ [line "    </section>"])
  constructor
  · rw [sectionPieces, hitems, ok_bind, harticles, ok_bind, ← List.append_assoc]
    rfl
  · rw [articlePlaces_append hstart, hplaces, hend, List.append_nil]

end Page

/-! ### Links to functions -/

namespace Library

open Page QualifiedName

variable {rs : List Record} {names : List String} {ns : Namespace}

/-- Where the functions shown in a namespace are found on the page of a library.  The entries of the
list of links and the links in descriptions lead to the articles, two of which are at one place
exactly if the names are alike.  A function with a name like no other is alone at its place in the
section, and on the whole page if there are no dashes in names. -/
structure Anchors (rs : List Record) (names : List String) (ns : Namespace)
    (nav main : List Piece) : Prop where
  articlePlaces_eq : articlePlaces main = ns.allMembers.map fun e => e.record.name.identifier
  targets_eq : targets nav = namespacePlace ns.toValue :: articlePlaces main
  linkNames_eq : ∀ e ∈ ns.allMembers, '\x7d' ∉ e.record.name.name.toList →
    Markup.linkNames ("\x7b@link " ++ e.record.name.name ++ "\x7d")
      = "<a href=\"#" ++ e.record.name.identifier ++ "\">" ++ e.record.name.name ++ "</a>"
  identifier_eq_iff : ∀ e ∈ ns.allMembers, ∀ e' ∈ ns.allMembers,
    e.record.name.identifier = e'.record.name.identifier
      ↔ Alike e.record.name.name e'.record.name.name
  nodup_iff : (articlePlaces main).Nodup ↔ ∀ e ∈ ns.allMembers, ∀ e' ∈ ns.allMembers,
    Alike e.record.name.name e'.record.name.name → e.record.name.name = e'.record.name.name
  eq_of_identifier_eq : ∀ e ∈ ns.allMembers,
    (∀ r ∈ rs, Alike r.name.name e.record.name.name → r.name.name = e.record.name.name) →
      ∀ ns' ∈ namespacesOf names rs, (ns' = ns ∨ ∀ r ∈ rs, '-' ∉ r.name.name.toList) →
        ∀ e' ∈ ns'.allMembers, e'.record.name.identifier = e.record.name.identifier → e' = e

/-- There are links to every namespace of a library and a section of it, where functions are told
apart by their places unless their names differ in nothing but separators. -/
theorem exists_anchors (hrs : ProperlyNamed rs) (hns : ns ∈ namespacesOf names rs) :
  ∃ nav main, namespaceLinkPieces ns.toValue = .ok nav ∧ sectionPieces ns.toValue = .ok main
    ∧ Anchors rs names ns nav main
  := by
  obtain ⟨main, hmain, hplaces⟩ := exists_sectionPieces_articlePlaces ns
  obtain ⟨name, rfl⟩ := exists_build_of_mem_namespacesOf hns
  refine ⟨_, main, namespaceLinkPieces_toValue _, hmain, hplaces, ?_, ?_, ?_, ?_, ?_⟩
  · rw [targets_navigationOf, hplaces]
  · intro e he hbrace
    apply linkNames_of_wellNamed hrs.wellNamed (Namespace.record_mem_of_mem_allMembers he) hbrace
  · intro e he e' he'
    apply Namespace.identifier_eq_iff_alike hrs he he'
  · rw [hplaces, List.nodup_map_iff_inj_on (Namespace.nodup_allMembers hrs.wellNamed name)]
    apply forall₂_congr
    intro e he
    apply forall₂_congr
    intro e' he'
    rw [Namespace.identifier_eq_iff_alike hrs he he', Entry.name_eq_name_iff hrs.nodup
      (Namespace.mem_ofRecords_of_mem_allMembers he)
      (Namespace.mem_ofRecords_of_mem_allMembers he')]
  · intro e he hother ns' hns' hwhere e' he' hidentifier
    obtain ⟨name', rfl⟩ := exists_build_of_mem_namespacesOf hns'
    have hr := Namespace.record_mem_of_mem_allMembers he
    have hr' := Namespace.record_mem_of_mem_allMembers he'
    have halike : Alike e'.record.name.name e.record.name.name := by
      rcases hwhere with heq | hdash
      · rw [heq] at he'
        exact (Namespace.identifier_eq_iff_alike hrs he' he).1 hidentifier
      · apply (anchor_eq_anchor_iff_alike (hdash _ hr') (hdash _ hr)).1
        rw [← hrs.wellNamed.identifier_eq hr', ← hrs.wellNamed.identifier_eq hr, hidentifier]
    apply (Entry.name_eq_name_iff hrs.nodup (Namespace.mem_ofRecords_of_mem_allMembers he')
      (Namespace.mem_ofRecords_of_mem_allMembers he)).1
    apply hother e'.record hr' halike

theorem properlyNamed_namedRecord (hq : ∀ s ∈ names, IsQualified s) (hd : names.Nodup) :
  ProperlyNamed (names.map namedRecord)
  := by
  constructor
  · apply wellNamed_namedRecord
  · intro r hr
    obtain ⟨s, hs, rfl⟩ := List.mem_map.1 hr
    apply hq s hs
  · rw [List.map_map]
    apply hd.map
    intro s t h
    exact h

theorem exists_anchors_foo :
  ProperlyNamed (["Foo", "Foo.bar", "Foo#baz", "Foo.bar#baz"].map namedRecord)
    ∧ ∃ ns ∈ namespacesOf [] (["Foo", "Foo.bar", "Foo#baz", "Foo.bar#baz"].map namedRecord),
      ∃ nav main, namespaceLinkPieces ns.toValue = .ok nav ∧ sectionPieces ns.toValue = .ok main
        ∧ targets nav = namespacePlace ns.toValue :: articlePlaces main
        ∧ (articlePlaces main).Nodup ∧ "Foo-bar" ∈ articlePlaces main
  := by
  have hrs : ProperlyNamed (["Foo", "Foo.bar", "Foo#baz", "Foo.bar#baz"].map namedRecord) :=
    properlyNamed_namedRecord (by decide) (by decide)
  have he : ⟨1, namedRecord "Foo.bar"⟩
      ∈ Entry.ofRecords (["Foo", "Foo.bar", "Foo#baz", "Foo.bar#baz"].map namedRecord) :=
    Entry.mem_ofRecords.2 rfl
  have hapart : ∀ s ∈ ["Foo", "Foo.bar", "Foo#baz", "Foo.bar#baz"],
      ∀ t ∈ ["Foo", "Foo.bar", "Foo#baz", "Foo.bar#baz"], Alike s t → s = t := by decide
  have hns := mem_namespacesOf_nil.2 ⟨_, he, rfl⟩
  obtain ⟨nav, main, hnav, hmain, hanchors⟩ := exists_anchors hrs hns
  refine ⟨hrs, _, hns, nav, main, hnav, hmain, hanchors.targets_eq, ?_, ?_⟩
  · rw [hanchors.nodup_iff]
    intro e he e' he' halike
    obtain ⟨s, hs, hname⟩ := List.mem_map.1 (Namespace.record_mem_of_mem_allMembers he)
    obtain ⟨t, ht, hname'⟩ := List.mem_map.1 (Namespace.record_mem_of_mem_allMembers he')
    rw [← hname, ← hname'] at halike ⊢
    exact hapart s hs t ht halike
  · rw [hanchors.articlePlaces_eq]
    apply List.mem_map_of_mem (f := fun e : Entry => e.record.name.identifier)
      ((Namespace.mem_allMembers hrs.wellNamed).2 (Or.inr ⟨he, rfl, by decide⟩))

/-- A static and an instance member with one short name have one place. -/
theorem not_nodup_articlePlaces_bar :
  ProperlyNamed (["Foo.bar", "Foo#bar"].map namedRecord)
    ∧ ∃ ns ∈ namespacesOf [] (["Foo.bar", "Foo#bar"].map namedRecord),
      ∃ main, sectionPieces ns.toValue = .ok main ∧ ¬ (articlePlaces main).Nodup
  := by
  have hrs : ProperlyNamed (["Foo.bar", "Foo#bar"].map namedRecord) :=
    properlyNamed_namedRecord (by decide) (by decide)
  have he : ⟨0, namedRecord "Foo.bar"⟩
      ∈ Entry.ofRecords (["Foo.bar", "Foo#bar"].map namedRecord) := Entry.mem_ofRecords.2 rfl
  have he' : ⟨1, namedRecord "Foo#bar"⟩
      ∈ Entry.ofRecords (["Foo.bar", "Foo#bar"].map namedRecord) := Entry.mem_ofRecords.2 rfl
  have hns := mem_namespacesOf_nil.2 ⟨_, he, rfl⟩
  obtain ⟨main, hmain, hplaces⟩ := exists_sectionPieces_articlePlaces _
  refine ⟨hrs, _, hns, main, hmain, ?_⟩
  rw [hplaces]
  intro hnodup
  have heq := List.inj_on_of_nodup_map hnodup
    ((Namespace.mem_allMembers hrs.wellNamed).2 (Or.inr ⟨he, rfl, by decide⟩))
    ((Namespace.mem_allMembers hrs.wellNamed).2 (Or.inr ⟨he', rfl, by decide⟩)) rfl
  cases heq

end Library

end DocPages

import DocPages.Proofs.Markup.Links
import DocPages.Proofs.Namespace
import DocPages.Proofs.Page.Layout
import DocPages.Site

/-!
# Links that lead somewhere

On the page of a library every link of the list of links leads to a section or an article of the
main part, every function has an article, and so has every name that a description links to.  The
names of places are made in several ways, which agree: from the name of a function when it is
parsed, from the target of a link in a description, and from the name of a namespace when it is put
on the page.
-/

namespace DocPages

/-! ### The data of a page -/

namespace Value

theorem eq_of_same_text {key : String} {k : Key} (h : (Key.text key).same k) :
  k = .text key
  := by
  have hbeq : (Key.text key == k) = true := h
  rw [eq_of_beq hbeq]

theorem lookup?_setEntry {key : String} {k : Key} (hk : k ≠ .text key) (v : Value)
    (es : List (Key × Value)) :
  lookup? key (setEntry k v es) = lookup? key es
  := by
  induction es with
  | nil => apply if_neg hk
  | cons e es ih =>
    obtain ⟨k', w⟩ := e
    rw [setEntry, lookup?]
    split
    · rename_i hsame
      have hk' : k' ≠ .text key := by
        rintro rfl
        exact hk (eq_of_same_text hsame)
      rw [lookup?, if_neg hk', if_neg hk']
    · rw [lookup?, ih]

/-- Setting other entries does not change what a key has. -/
theorem lookup?_setEntries {key : String} {more : List (Key × Value)}
    (h : ∀ e ∈ more, e.1 ≠ .text key) (es : List (Key × Value)) :
  lookup? key (setEntries es more) = lookup? key es
  := by
  rw [setEntries]
  induction more generalizing es with
  | nil => rfl
  | cons e more ih =>
    rw [List.forall_mem_cons] at h
    rw [List.foldl_cons, ih h.2, lookup?_setEntry h.1]

theorem forall_mem_setEntry {P : Key → Prop} {k : Key} (hk : P k) (v : Value)
    {es : List (Key × Value)} (h : ∀ e ∈ es, P e.1) :
  ∀ e ∈ setEntry k v es, P e.1
  := by
  induction es with
  | nil =>
    rw [setEntry, List.forall_mem_singleton]
    apply hk
  | cons e es ih =>
    obtain ⟨k', w⟩ := e
    rw [List.forall_mem_cons] at h
    rw [setEntry]
    split
    · exact List.forall_mem_cons.2 h
    · exact List.forall_mem_cons.2 ⟨h.1, ih h.2⟩

theorem forall_mem_setEntries {P : Key → Prop} {more es : List (Key × Value)}
    (hm : ∀ e ∈ more, P e.1) (h : ∀ e ∈ es, P e.1) :
  ∀ e ∈ setEntries es more, P e.1
  := by
  rw [setEntries]
  induction more generalizing es with
  | nil => apply h
  | cons e more ih =>
    rw [List.forall_mem_cons] at hm
    apply ih hm.2
    apply forall_mem_setEntry hm.1 _ h

end Value

/-! ### The head of a page -/

namespace Page

theorem exists_handlersPieces (hs : List Handler) :
  ∃ ps, handlersPieces (hs.map Handler.toValue) = .ok ps
  := by
  induction hs with
  | nil => exact ⟨[], rfl⟩
  | cons h hs ih =>
    obtain ⟨ps, hps⟩ := ih
    have hfirst : ∃ qs, handlerPieces (hs.map Handler.toValue).isEmpty h.toValue = .ok qs :=
      ⟨_, rfl⟩
    obtain ⟨qs, hqs⟩ := hfirst
    rw [List.map_cons, handlersPieces, hqs, ok_bind, hps]
    exact ⟨_, rfl⟩

/-- There is a head for scripts and handlers as the settings have them. -/
theorem exists_headPieces {data : List (Key × Value)} {scripts : List String}
    {handlers : List Handler}
    (hs : Slot.ofData data "javascripts" = .filled (.ofTexts scripts))
    (hh : Slot.ofData data "example_handlers" = .filled (.list (handlers.map Handler.toValue))) :
  ∃ head, headPieces data = .ok head
  := by
  obtain ⟨lines, hlines⟩ := exists_forEach_pure (scripts.map .text) fun script =>
    lineWith "  <script type=\"text/javascript\" src=\"" (.filled script) "\"></script>"
  obtain ⟨ps, hps⟩ := exists_handlersPieces handlers
  have hscripts : (Slot.ofData data "javascripts").items = .ok (scripts.map .text) := by
    rw [hs]
    rfl
  have hitems : (Slot.ofData data "example_handlers").items
      = .ok (handlers.map Handler.toValue) := by
    rw [hh]
    rfl
  rw [headPieces]
  apply exists_bind hscripts
  apply exists_bind hlines
  dsimp only
  rw [hitems, ok_bind, hps]
  cases (Slot.ofData data "example_handlers").holds with
  | false => exact ⟨_, rfl⟩
  | true => exact ⟨_, rfl⟩

/-- What there is before the list of links, apart from the head. -/
def header (data : List (Key × Value)) : List Piece :=
  [line "<body>", line "  <header>"]
    ++ lineWith "    <h1>" ((Slot.ofData data "name").orElse (.filled (.text ""))) "</h1>"
    ++ [line ("    <div class=\"description\">" ++ (Slot.ofData data "description").raw ++ "</div>"),
      line "  </header>", line ""]

/-- The page is made of its parts. -/
theorem layout_eq {data : List (Key × Value)} {head nav main : List Piece}
    (hh : headPieces data = .ok head) (hn : navigationPieces data = .ok nav)
    (hm : mainPieces data = .ok main) :
  layout data = .ok (head ++ header data ++ nav ++ main ++ [line "</body>", .text "</html>"])
  := by
  rw [layout, hh, ok_bind, hn, ok_bind, hm, ok_bind]
  simp only [header, List.append_assoc]
  rfl

theorem escapes_defaultTemplate :
  escapes defaultTemplate = true
  := by
  decide +kernel

theorem findTemplate_bundled (path : String) :
  findTemplate (.bundled path) defaultTemplate = .ok .bundled
  := rfl

theorem render_bundled (path : String) (data : List (Key × Value)) :
  render (.bundled path) (.text defaultTemplate) data
    = match dataError? data with
      | some e => .error e
      | none => (layout data).map (toMarkup true)
  := by
  rw [render, findTemplate_bundled, ok_bind]
  cases dataError? data with
  | some e => rfl
  | none =>
    dsimp only
    rw [escapes_defaultTemplate]
    cases layout data <;> rfl

/-- Nothing keeps data with texts for keys from a template. -/
theorem dataError?_eq_none {data : List (Key × Value)} (hk : ∀ e ∈ data, ∃ key, e.1 = .text key)
    (hr : Value.lookup? reservedName data = none) :
  dataError? data = none
  := by
  rw [dataError?, hr]
  apply if_neg
  rw [List.any_eq_true]
  rintro ⟨e, he, hno⟩
  obtain ⟨key, hkey⟩ := hk e he
  rw [hkey] at hno
  cases hno

/-- A page has its list of links and then its main part. -/
theorem exists_of_render_bundled {path : String} {data : List (Key × Value)}
    {nav main : List Piece} {page : String} (hn : navigationPieces data = .ok nav)
    (hm : mainPieces data = .ok main)
    (hpage : render (.bundled path) (.text defaultTemplate) data = .ok page) :
  ∃ before after, page = before ++ toMarkup true nav ++ toMarkup true main ++ after
  := by
  rw [render_bundled] at hpage
  cases hd : dataError? data with
  | some e =>
    rw [hd] at hpage
    cases hpage
  | none =>
    rw [hd] at hpage
    cases hh : headPieces data with
    | error e =>
      rw [layout, hh] at hpage
      cases hpage
    | ok head =>
      rw [layout_eq hh hn hm] at hpage
      cases hpage
      use toMarkup true (head ++ header data), toMarkup true [line "</body>", .text "</html>"]
      simp only [toMarkup_append]

/-! ### Places on a page -/

/-- There is an article with this name of its place. -/
def HasArticle (markup name : String) : Prop :=
  ∃ kind ∈ ["constructor", "method"],
    ("<article class=\"" ++ kind ++ "\" id=\"" ++ name ++ "\">").toList <:+: markup.toList

/-- There is a section with this name of its place. -/
def HasSection (markup name : String) : Prop :=
  ("<section class=\"namespace\" id=\"" ++ name ++ "\">").toList <:+: markup.toList

theorem hasSection_of_sectionHead {ns : Namespace} {main : List Piece} (h : sectionHead ns <:+: main) :
  HasSection (toMarkup true main) (Markup.escapeAttribute (namespacePlace ns.toValue))
  := by
  apply List.IsInfix.trans _ (isInfix_toMarkup true h)
  refine ⟨"    ".toList, ['\n'], ?_⟩
  simp [sectionHead, toMarkup_cons, Piece.toMarkup, Piece.dataMarkup, line]

theorem hasArticle_of_articleHead {r : Record} {main : List Piece} (h : articleHead r <:+: main) :
  HasArticle (toMarkup true main) (Markup.escapeAttribute r.name.identifier)
  := by
  have hkind : r.sectionKind ∈ ["constructor", "method"]
      ∧ Markup.escapeAttribute r.sectionKind = r.sectionKind := by
    rw [Record.sectionKind]
    split
    · exact ⟨by decide, by decide⟩
    · exact ⟨by decide, by decide⟩
  refine ⟨r.sectionKind, hkind.1, ?_⟩
  apply List.IsInfix.trans _ (isInfix_toMarkup true h)
  refine ⟨"      ".toList, ['\n'], ?_⟩
  simp [articleHead, toMarkup_cons, Piece.toMarkup, Piece.dataMarkup, line, hkind.2]

/-- The links in `nav` lead to sections and articles in `main`, and the records have articles. -/
structure Resolves (rs : List Record) (nav main : String) : Prop where
  link : ∀ x : String, '"' ∉ x.toList →
    ("href=\"#" ++ x ++ "\"").toList <:+: nav.toList → HasSection main x ∨ HasArticle main x
  article : ∀ r ∈ rs, HasArticle main r.name.identifier

end Page

namespace Library

open Page

/-- A name without a brace that is closed and without a character that is escaped. -/
def IsSafe (name : String) : Prop :=
  ∀ c ∈ '\x7d' :: Markup.escapedChars, c ∉ name.toList

instance (name : String) : Decidable (IsSafe name) :=
  List.decidableBAll (fun c => c ∉ name.toList) ('\x7d' :: Markup.escapedChars)

/-- All names are safe. -/
def SafeNames (rs : List Record) : Prop :=
  ∀ r ∈ rs, IsSafe r.name.name

variable {rs : List Record}

theorem escapeAttribute_identifier (hn : WellNamed rs) (hs : SafeNames rs) {r : Record}
    (hr : r ∈ rs) :
  Markup.escapeAttribute r.name.identifier = r.name.identifier
  := by
  apply Markup.escapeAttribute_eq_self
  intro c hc hmem
  rw [hn.identifier_eq hr, QualifiedName.anchor, String.toList_ofList] at hmem
  obtain ⟨d, hd, hdc⟩ := List.mem_map.1 hmem
  split at hdc
  · rw [← hdc] at hc
    exact absurd hc (by decide)
  · rw [hdc] at hd
    exact hs r hr c (List.mem_cons_of_mem _ hc) hd

/-- A link in a description leads to the place of the function that it names. -/
theorem linkNames_of_wellNamed (hn : WellNamed rs) {r : Record} (hr : r ∈ rs)
    (hbrace : '\x7d' ∉ r.name.name.toList) :
  Markup.linkNames ("\x7b@link " ++ r.name.name ++ "\x7d")
    = "<a href=\"#" ++ r.name.identifier ++ "\">" ++ r.name.name ++ "</a>"
  := by
  rw [Markup.linkNames_name hbrace, Markup.anchorTo, hn.identifier_eq hr]

theorem linkNames_of_safeNames (hn : WellNamed rs) (hs : SafeNames rs) {r : Record} (hr : r ∈ rs) :
  Markup.linkNames ("\x7b@link " ++ r.name.name ++ "\x7d")
    = "<a href=\"#" ++ r.name.identifier ++ "\">" ++ r.name.name ++ "</a>"
  := linkNames_of_wellNamed hn hr (hs r hr _ List.mem_cons_self)

/-- Options leave what is under other keys as it is. -/
theorem lookup?_pageData {settings : Settings} {key : String}
    (h : ∀ e ∈ settings.extraOptions, e.1 ≠ .text key) (l : Library) :
  Value.lookup? key (settings.pageData l)
    = Value.lookup? key (({ settings with extraOptions := [] } : Settings).pageData l)
  := by
  rw [Settings.pageData, Value.lookup?_setEntries h]
  rfl

theorem ofData_pageData {settings : Settings} {key : String}
    (h : ∀ e ∈ settings.extraOptions, e.1 ≠ .text key) (l : Library) :
  Slot.ofData (settings.pageData l) key
    = Slot.ofData (({ settings with extraOptions := [] } : Settings).pageData l) key
  := by
  rw [Slot.ofData, lookup?_pageData h]
  rfl

/-- The list of links and the main part of the page of some records resolve. -/
theorem exists_resolves {data : List (Key × Value)} (hn : WellNamed rs) (hs : SafeNames rs)
    (hd : Slot.ofData data "namespaces"
      = .filled (.list ((namespacesOf [] rs).map Namespace.toValue))) :
  ∃ nav main, navigationPieces data = .ok nav ∧ mainPieces data = .ok main
    ∧ Resolves rs (toMarkup true nav) (toMarkup true main)
  := by
  obtain ⟨nav, hnav, htidy, htargets⟩ := exists_navigationPieces hd
  obtain ⟨main, hmain, hsections⟩ := exists_mainPieces hd
  use nav, main, hnav, hmain
  constructor
  · rintro x hx ⟨us, vs, he⟩
    have hquote : (us ++ "href=".toList) ++ '"' :: '#' :: (x.toList ++ '"' :: vs)
        = (toMarkup true nav).toList := by
      rw [← he]
      simp
    obtain ⟨target, htarget, hxt⟩ := htidy.exists_target hx hquote
    rw [String.toList_inj.1 hxt]
    obtain ⟨ns, hns, rfl | ⟨e, hmem, rfl⟩⟩ := htargets target htarget
    · left
      apply hasSection_of_sectionHead (hsections ns hns).1
    · right
      apply hasArticle_of_articleHead ((hsections ns hns).2 e hmem)
  · intro r hr
    obtain ⟨e, he, rfl⟩ := Entry.exists_of_mem hr
    obtain ⟨ns, hns, e', hmem, he', hname⟩ := exists_mem_allMembers hn he
    have harticle := hasArticle_of_articleHead ((hsections ns hns).2 e' hmem)
    have hidentifier : e'.record.name = e.record.name := by
      rw [hn _ (Entry.record_mem he'), hname, ← hn _ hr]
    rw [hidentifier, escapeAttribute_identifier hn hs hr] at harticle
    apply harticle

/-- There is a page for every library if the options have keys of their own. -/
theorem exists_page {settings : Settings} {summary : Summary} {code : String}
    (hn : WellNamed rs) (hs : SafeNames rs)
    (htemplate : settings.template = .text defaultTemplate)
    (hnamespaces : ∀ e ∈ settings.extraOptions, e.1 ≠ .text "namespaces")
    (hkeys : ∀ e ∈ settings.extraOptions,
      ∃ key, e.1 = .text key ∧ key ∉ [reservedName, "javascripts", "example_handlers"])
    (path : String) :
  ∃ page, (build summary code [] rs).page settings (.bundled path) = .ok page
  := by
  have hother : ∀ key ∈ [reservedName, "javascripts", "example_handlers"],
      ∀ e ∈ settings.extraOptions, e.1 ≠ .text key := by
    intro key hkey e he heq
    obtain ⟨key', he', hkey'⟩ := hkeys e he
    rw [heq] at he'
    cases he'
    exact hkey' hkey
  obtain ⟨head, hhead⟩ := exists_headPieces
    (ofData_pageData (hother "javascripts" (by decide)) (build summary code [] rs))
    (ofData_pageData (hother "example_handlers" (by decide)) (build summary code [] rs))
  obtain ⟨nav, main, hnav, hmain, -⟩ := exists_resolves hn hs
    (ofData_pageData hnamespaces (build summary code [] rs))
  have hdata : dataError? (settings.pageData (build summary code [] rs)) = none := by
    apply dataError?_eq_none
    · apply Value.forall_mem_setEntries (P := fun k => ∃ key, k = .text key)
      · intro e he
        obtain ⟨key, hkey, -⟩ := hkeys e he
        exact ⟨key, hkey⟩
      · simp [toEntries]
    · rw [Settings.pageData, Value.lookup?_setEntries (hother reservedName (by decide))]
      rfl
  rw [page, htemplate, render_bundled, hdata, layout_eq hhead hnav hmain]
  exact ⟨_, rfl⟩

/-- Every link of the page of a library leads to a place on it.  The page has an article for every
function, and the links to a function in descriptions lead there. -/
theorem page_links_resolve (settings : Settings) (summary : Summary) (code : String)
    (hn : WellNamed rs) (hs : SafeNames rs)
    (htemplate : settings.template = .text defaultTemplate)
    (hextra : ∀ e ∈ settings.extraOptions,
      e.1 ∉ (build summary code [] rs).toEntries.map Prod.fst)
    (path : String) :
  ((∀ e ∈ settings.extraOptions,
      ∃ key, e.1 = .text key ∧ key ∉ [reservedName, "javascripts", "example_handlers"]) →
      ∃ page, (build summary code [] rs).page settings (.bundled path) = .ok page)
    ∧ (∀ page, (build summary code [] rs).page settings (.bundled path) = .ok page →
      ∃ nav main before after,
        navigationPieces (settings.pageData (build summary code [] rs)) = .ok nav
          ∧ mainPieces (settings.pageData (build summary code [] rs)) = .ok main
          ∧ page = before ++ toMarkup true nav ++ toMarkup true main ++ after
          ∧ Resolves rs (toMarkup true nav) (toMarkup true main))
    ∧ ∀ r ∈ rs, Markup.linkNames ("\x7b@link " ++ r.name.name ++ "\x7d")
      = "<a href=\"#" ++ r.name.identifier ++ "\">" ++ r.name.name ++ "</a>"
  := by
  have hnamespaces : ∀ e ∈ settings.extraOptions, e.1 ≠ .text "namespaces" := by
    intro e he heq
    apply hextra e he
    rw [heq]
    simp [toEntries]
  refine ⟨fun hkeys => exists_page hn hs htemplate hnamespaces hkeys path, ?_,
    fun r hr => linkNames_of_safeNames hn hs hr⟩
  intro page hpage
  obtain ⟨nav, main, hnav, hmain, hresolves⟩ := exists_resolves hn hs
    (ofData_pageData hnamespaces (build summary code [] rs))
  rw [Library.page, htemplate] at hpage
  obtain ⟨head, after, hpage⟩ := exists_of_render_bundled hnav hmain hpage
  exact ⟨nav, main, head, after, hnav, hmain, hpage, hresolves⟩

theorem page_links_resolve_nested :
  SafeNames (["Foo", "Foo", "Foo.Bar#baz"].map namedRecord)
    ∧ ∃ page, (build {} "" [] (["Foo", "Foo", "Foo.Bar#baz"].map namedRecord)).page {}
        (.bundled "templates") = .ok page
      ∧ ∃ nav main, nav.toList ++ main.toList <:+: page.toList
        ∧ Resolves (["Foo", "Foo", "Foo.Bar#baz"].map namedRecord) nav main
  := by
  have hs : SafeNames (["Foo", "Foo", "Foo.Bar#baz"].map namedRecord) := by
    intro r hr
    obtain ⟨name, hname, rfl⟩ := List.mem_map.1 hr
    revert name
    decide
  obtain ⟨hpage, hresolves, -⟩ := page_links_resolve {} {} ""
    (wellNamed_namedRecord ["Foo", "Foo", "Foo.Bar#baz"]) hs rfl (by simp) "templates"
  obtain ⟨page, hpage⟩ := hpage (by simp)
  obtain ⟨nav, main, before, after, -, -, rfl, hnav⟩ := hresolves page hpage
  refine ⟨hs, _, hpage, _, _, ?_, hnav⟩
  exact ⟨before.toList, after.toList, by simp⟩

end Library

end DocPages

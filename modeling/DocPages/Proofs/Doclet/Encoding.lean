import DocPages.Doclet.Reader
import DocPages.Proofs.Doclet.Balance
import DocPages.Proofs.Text.Lines
import DocPages.Proofs.TypeExpr.Source
import Mathlib.Tactic.Common

/-!
# Writing doc comments

`encode` writes a doclet as a doc comment: the description and an entry for each tag, every line
after a gutter, between delimiters.  The text of a type is given with its tag, since a type may
be written in several ways.  For a well formed doclet, `read` undoes `encode`.
-/

namespace DocPages.Doclet

open Text (Trimmed)

/-! ### The written form -/

/-- A tag with a text of its type, which counts if the tag has a type. -/
structure Entry where
  tag : Tag
  typeText : List Char := []

/-- A text after a space, if there is one. -/
def spaced : Option String → List Char
  | some s => ' ' :: s.toList
  | none => []

namespace Entry

/-- The type in braces after a space, if there is one. -/
def typePart (e : Entry) : List Char :=
  if e.tag.type.isSome then [' ', '\x7b'] ++ e.typeText ++ ['\x7d'] else []

/-- What is written between the title and the description. -/
def front (e : Entry) : List Char :=
  if e.tag.title ∈ namedTitles then e.typePart ++ spaced e.tag.name
  else if e.tag.title ∈ typedTitles then e.typePart
  else []

/-- What is written after the title. -/
def content (e : Entry) : List Char :=
  e.front ++ spaced e.tag.description

/-- A tag as it is written. -/
def text (e : Entry) : List Char :=
  '@' :: e.tag.title.toList ++ e.content

end Entry

/-- The description, if there is one, and the tags, each from a new line on. -/
def body (description : String) (es : List Entry) : List Char :=
  Text.unlines ((if description = "" then [] else [description.toList]) ++ es.map Entry.text)

/-- A text as a comment: each of its lines after a gutter, between delimiters. -/
def wrap (cs : List Char) : List Char :=
  "/**\n".toList ++ Text.unlines ((Text.lines cs).map (" * ".toList ++ ·)) ++ "\n */".toList

/-- The doc comment with a description and some tags. -/
def encode (description : String) (es : List Entry) : String :=
  String.ofList (wrap (body description es))

/-! ### Well formed doclets -/

/-- Blanks, an at sign and a word character. -/
def StartsTag (line : List Char) : Prop :=
  ∃ ws c r, (∀ w ∈ ws, Text.isBlank w) ∧ Text.isWord c ∧ line = ws ++ '@' :: c :: r

/-- A description that can follow a title. -/
structure GoodDescription (d : String) : Prop where
  ne_empty : d ≠ ""
  strip_eq : Text.strip d = d
  not_startsTag : ∀ l ∈ (Text.lines d.toList).tail, ¬ StartsTag l

/-- A name that can follow a title. -/
structure GoodName (n : String) : Prop where
  ne_empty : n ≠ ""
  not_isBlank : ∀ c ∈ n.toList, Text.isBlank c = false
  not_bracket : n.toList.head? ≠ some '['

/-- A tag that can be written, with a text of its type. -/
structure Entry.WellFormed (e : Entry) : Prop where
  title_ne_empty : e.tag.title ≠ ""
  title_isWord : ∀ c ∈ e.tag.title.toList, Text.isWord c
  description : ∀ d ∈ e.tag.description, GoodDescription d
  type_eq : ∀ t ∈ e.tag.type, '\n' ∉ e.typeText ∧ TypeExpr.parse (String.ofList e.typeText) = .ok t
  name : e.tag.title ∈ namedTitles → ∃ n ∈ e.tag.name, GoodName n ∧
    (e.tag.type = none → n.toList.head? ≠ some '\x7b')
  no_name : e.tag.title ∉ namedTitles → e.tag.name = none
  no_type : e.tag.title ∉ namedTitles → e.tag.title ∉ typedTitles → e.tag.type = none
  no_dash : e.tag.title ∈ namedTitles ∨ e.tag.title ∈ typedTitles →
    ∀ d ∈ e.tag.description, ¬ "- ".toList <+: d.toList
  no_brace : e.tag.title ∈ typedTitles → e.tag.type = none →
    ∀ d ∈ e.tag.description, d.toList.head? ≠ some '\x7b'

/-- A doclet whose description and tags can be written, with texts of the types. -/
structure WellFormed (doc : Doclet) (es : List Entry) : Prop where
  strip_eq : Text.strip doc.description = doc.description
  not_startsTag : ∀ l ∈ Text.lines doc.description.toList, ¬ StartsTag l
  tags_eq : es.map Entry.tag = doc.tags
  entry : ∀ e ∈ es, e.WellFormed

/-! ### Delimiters and gutters -/

theorem withoutClosing_append (cs : List Char) :
  withoutClosing (cs ++ ['*', '/']) = cs
  := by
  induction cs with
  | nil => rfl
  | cons c cs ih =>
    have hne : c :: (cs ++ ['*', '/']) ≠ ['*', '/'] := by
      intro h
      simpa using congrArg List.length h
    rw [List.cons_append, withoutClosing, if_neg hne, ih]

theorem withoutGutter_gutter (l : List Char) :
  withoutGutter (" * ".toList ++ l) = l
  := rfl

/-- The text of a comment comes back. -/
theorem unwrap_wrap {cs : List Char} (h : Trimmed cs) :
  unwrap (wrap cs) = cs
  := by
  let ls := (Text.lines cs).map (" * ".toList ++ ·)
  have hls : ls ≠ [] := by simpa [ls] using Text.lines_ne_nil cs
  have hfeed : ∀ l ∈ ls, '\n' ∉ l := by
    intro l hl
    obtain ⟨m, hm, rfl⟩ := List.mem_map.1 hl
    have := Text.not_mem_of_mem_lines hm
    simpa using this
  have htrim : Text.trim (wrap cs) = wrap cs := by
    apply Text.trim_eq_self_iff.2
    constructor
    · intro c hc
      cases hc
      rfl
    · intro c hc
      rw [wrap, List.getLast?_append] at hc
      cases hc
      rfl
  have hinner : withoutClosing (withoutOpening (wrap cs))
      = '\n' :: (Text.unlines ls ++ '\n' :: [' ']) := by
    have hw : wrap cs = '/' :: '*' :: '*' :: (('\n' :: (Text.unlines ls ++ '\n' :: [' ']))
        ++ ['*', '/']) := by
      simp [wrap, ls]
    rw [hw, withoutOpening, withoutClosing_append]
  have hlines : (Text.lines ('\n' :: (Text.unlines ls ++ '\n' :: [' ']))).map withoutGutter
      = [[]] ++ (Text.lines cs ++ [[' ']]) := by
    have hfirst := Text.lines_append_cons [] (Text.unlines ls ++ '\n' :: [' '])
    rw [List.nil_append] at hfirst
    rw [hfirst, Text.lines_append_cons, Text.lines_unlines hfeed hls, List.map_append,
      List.map_append, List.map_map]
    have hid : withoutGutter ∘ (" * ".toList ++ ·) = id := funext withoutGutter_gutter
    rw [hid, List.map_id]
    rfl
  rw [unwrap, htrim, hinner, hlines, Text.unlines_append (by simp) (by simp),
    Text.unlines_append (Text.lines_ne_nil cs) (by simp), Text.unlines_lines]
  have hleft : ∀ c ∈ ['\n'], Text.isBlank c := List.all_eq_true.1 rfl
  have hright : ∀ c ∈ ['\n', ' '], Text.isBlank c := List.all_eq_true.1 rfl
  apply Text.trim_append_of_blank hleft hright h

/-! ### Lines of tags -/

theorem not_isBlank_at :
  Text.isBlank '@' = false
  := by decide

/-- The reader sees a tag on a line exactly if one starts there. -/
theorem tagStart?_eq_none_iff {line : List Char} :
  tagStart? line = none ↔ ¬ StartsTag line
  := by
  rw [tagStart?]
  constructor
  · rintro h ⟨ws, c, r, hws, hc, rfl⟩
    rw [Text.trimLeft_append_of_blank hws, Text.trimLeft_cons_of_not not_isBlank_at] at h
    simp [hc] at h
  · intro h
    split
    · rename_i r hr
      split
      · rfl
      · rename_i title htitle hnil
        exfalso
        apply h
        cases r with
        | nil => simp at hnil
        | cons c r =>
          obtain ⟨ws, hws, hline⟩ := Text.exists_append_trimLeft line
          rw [hr] at hline
          refine ⟨ws, c, r, hws, ?_, hline⟩
          by_contra hc
          simp [hc] at hnil
    · rfl

/-- The title of a tag is read up to a character that is no word character. -/
theorem tagStart?_title {title r : List Char} (hne : title ≠ [])
    (hw : ∀ c ∈ title, Text.isWord c) (hr : ∀ c ∈ r.head?, Text.isWord c = false) :
  tagStart? ('@' :: title ++ r) = some (title, r)
  := by
  obtain ⟨htake, hdrop⟩ := Text.takeWhile_dropWhile_of_head? hr
  rw [tagStart?, List.cons_append, Text.trimLeft_cons_of_not not_isBlank_at]
  simp only [List.takeWhile_append_of_pos hw, List.dropWhile_append_of_pos hw, htake, hdrop,
    List.append_nil]

/-- Lines on which no tag starts stay before the first tag. -/
theorem blocks_append {ls : List (List Char)} (h : ∀ l ∈ ls, ¬ StartsTag l)
    (ms : List (List Char)) :
  blocks (ls ++ ms) = (ls ++ (blocks ms).1, (blocks ms).2)
  := by
  induction ls with
  | nil => rfl
  | cons l ls ih =>
    have hl := tagStart?_eq_none_iff.2 (h l List.mem_cons_self)
    rw [List.cons_append, blocks, ih fun m hm => h m (List.mem_cons_of_mem l hm), hl]
    rfl

/-- A line on which a tag starts ends what is before it. -/
theorem blocks_cons_of_tagStart? {l title r : List Char} (h : tagStart? l = some (title, r))
    (ms : List (List Char)) :
  blocks (l :: ms) = ([], (title, r :: (blocks ms).1) :: (blocks ms).2)
  := by
  rw [blocks, h]

/-! ### The text of a tag -/

theorem head?_spaced (s : Option String) :
  ∀ c ∈ (spaced s).head?, c = ' '
  := by
  cases s with
  | none => simp [spaced]
  | some s => simp [spaced]

theorem toList_ne_nil {s : String} (h : s ≠ "") :
  s.toList ≠ []
  := by
  intro hnil
  apply h
  rw [← String.toList_inj, hnil]
  rfl

theorem last_spaced {s : Option String} (h : ∀ d ∈ s, d ≠ "" ∧ Trimmed d.toList) :
  ∀ c ∈ (spaced s).getLast?, Text.isBlank c = false
  := by
  cases s with
  | none => simp [spaced]
  | some d =>
    obtain ⟨hne, ht⟩ := h d rfl
    rw [spaced, List.getLast?_cons_of_ne_nil (toList_ne_nil hne)]
    apply ht.last

namespace Entry

variable {e : Entry}

theorem WellFormed.trimmed_name (h : e.WellFormed) (hn : e.tag.title ∈ namedTitles) :
  ∀ n ∈ e.tag.name, n ≠ "" ∧ Trimmed n.toList
  := by
  intro n hmem
  obtain ⟨m, hm, hgood, -⟩ := h.name hn
  obtain rfl : m = n := Option.some.inj (hm.symm.trans hmem)
  use hgood.ne_empty
  constructor
  · intro c hc
    apply hgood.not_isBlank c (List.mem_of_mem_head? hc)
  · intro c hc
    apply hgood.not_isBlank c (List.mem_of_mem_getLast? hc)

theorem WellFormed.trimmed_description (h : e.WellFormed) :
  ∀ d ∈ e.tag.description, d ≠ "" ∧ Trimmed d.toList
  := by
  intro d hd
  obtain ⟨hne, hs, -⟩ := h.description d hd
  use hne
  apply Text.strip_eq_self_iff.1 hs

/-- The type part stands in one line. -/
theorem WellFormed.not_mem_typePart (h : e.WellFormed) :
  '\n' ∉ e.typePart
  := by
  rw [typePart]
  split
  · rename_i ht
    obtain ⟨t, ht⟩ := Option.isSome_iff_exists.1 ht
    have hn := (h.type_eq t ht).1
    simpa using hn
  · apply List.not_mem_nil

/-- The text up to the description stands in one line. -/
theorem WellFormed.not_mem_front (h : e.WellFormed) :
  '\n' ∉ e.front
  := by
  rw [front]
  split
  · rename_i hn
    obtain ⟨n, hmem, hgood, -⟩ := h.name hn
    have hname : '\n' ∉ n.toList := by
      intro hc
      exact absurd (hgood.not_isBlank _ hc) (by decide)
    rw [Option.mem_def] at hmem
    simpa [hmem, spaced, h.not_mem_typePart] using hname
  · split
    · apply h.not_mem_typePart
    · apply List.not_mem_nil

theorem last_typePart (e : Entry) :
  ∀ c ∈ e.typePart.getLast?, Text.isBlank c = false
  := by
  rw [typePart]
  split
  · intro c hc
    rw [List.getLast?_append] at hc
    cases hc
    decide
  · simp

theorem WellFormed.last_front (h : e.WellFormed) :
  ∀ c ∈ e.front.getLast?, Text.isBlank c = false
  := by
  rw [front]
  split
  · rename_i hn
    apply Text.last_append e.last_typePart
    apply last_spaced (h.trimmed_name hn)
  · split
    · apply last_typePart
    · simp

theorem head?_typePart (e : Entry) :
  ∀ c ∈ e.typePart.head?, c = ' '
  := by
  rw [typePart]
  split
  · simp
  · simp

/-- What follows the title starts with a space, if there is anything. -/
theorem head?_content (e : Entry) :
  ∀ c ∈ e.content.head?, c = ' '
  := by
  have hfront : ∀ c ∈ e.front.head?, c = ' ' := by
    rw [front]
    split
    · intro c hc
      rw [List.head?_append] at hc
      cases ht : e.typePart.head? with
      | none =>
        rw [ht] at hc
        apply head?_spaced _ c hc
      | some d =>
        rw [ht] at hc
        cases hc
        apply e.head?_typePart c ht
    · split
      · apply head?_typePart
      · simp
  intro c hc
  rw [content, List.head?_append] at hc
  cases hf : e.front.head? with
  | none =>
    rw [hf] at hc
    apply head?_spaced _ c hc
  | some d =>
    rw [hf] at hc
    cases hc
    apply hfront c hf

/-- The text of a tag starts with its at sign and does not end with a blank. -/
theorem WellFormed.trimmed_text (h : e.WellFormed) :
  Trimmed e.text
  := by
  constructor
  · intro c hc
    cases hc
    apply not_isBlank_at
  · apply Text.last_append
    · intro c hc
      rw [List.getLast?_cons_of_ne_nil (toList_ne_nil h.title_ne_empty)] at hc
      apply Text.not_isBlank_of_isWord (h.title_isWord c (List.mem_of_mem_getLast? hc))
    · apply Text.last_append h.last_front
      apply last_spaced h.trimmed_description

/-- No tag starts on a line of the content but the first. -/
theorem WellFormed.not_startsTag (h : e.WellFormed) :
  ∀ l ∈ (Text.lines e.content).tail, ¬ StartsTag l
  := by
  rw [content, Text.lines_append_of_not_mem h.not_mem_front, List.tail_modifyHead]
  cases hd : e.tag.description with
  | none => simp [spaced, Text.lines_of_not_mem]
  | some d =>
    have hspace : '\n' ∉ [' '] := by decide
    have hlines := Text.lines_append_of_not_mem hspace d.toList
    rw [List.singleton_append] at hlines
    rw [spaced, hlines, List.tail_modifyHead]
    apply (h.description d hd).not_startsTag

/-- The lines of a tag before those of others make up a block of their own. -/
theorem WellFormed.blocks_lines (h : e.WellFormed) {ms : List (List Char)}
    (hms : (blocks ms).1 = []) :
  blocks (Text.lines e.text ++ ms)
    = ([], (e.tag.title.toList, Text.lines e.content) :: (blocks ms).2)
  := by
  have hfeed : '\n' ∉ '@' :: e.tag.title.toList := by
    rw [List.mem_cons, not_or]
    constructor
    · decide
    · intro hc
      exact absurd (h.title_isWord _ hc) (by decide)
  obtain ⟨l, ls, hl⟩ := List.exists_cons_of_ne_nil (Text.lines_ne_nil e.content)
  have hhead : ∀ c ∈ l.head?, Text.isWord c = false := by
    intro c hc
    have hcontent : e.content.head? = some c := by
      rw [← Text.unlines_lines e.content, hl]
      cases l with
      | nil => cases hc
      | cons d l =>
        cases hc
        cases ls with
        | nil => simp [Text.unlines]
        | cons m ms => rw [Text.unlines_cons _ (by simp)]; rfl
    rw [e.head?_content c hcontent]
    decide
  have htail := h.not_startsTag
  rw [hl, List.tail_cons] at htail
  have hstart := tagStart?_title (toList_ne_nil h.title_ne_empty) h.title_isWord hhead
  rw [text, Text.lines_append_of_not_mem hfeed, hl, List.modifyHead_cons, List.cons_append,
    blocks_cons_of_tagStart? hstart, blocks_append htail, hms, List.append_nil]

end Entry

/-! ### Reading a tag -/

theorem trimLeft_spaced {s : String} (h : Trimmed s.toList) :
  Text.trimLeft (' ' :: s.toList) = s.toList
  := h.trimLeft_eq

theorem trim_spaced {s : Option String} (h : ∀ d ∈ s, d ≠ "" ∧ Trimmed d.toList) :
  Text.trim (spaced s) = (s.getD "").toList
  := by
  cases s with
  | none => rfl
  | some d =>
    obtain ⟨-, ht⟩ := h d rfl
    rw [spaced, Text.trim, trimLeft_spaced ht, ht.trimRight_eq]
    rfl

theorem nonEmpty?_getD {s : Option String} (h : ∀ d ∈ s, d ≠ "" ∧ Trimmed d.toList) :
  nonEmpty? (s.getD "").toList = s
  := by
  cases s with
  | none => rfl
  | some d =>
    obtain ⟨hne, -⟩ := h d rfl
    rw [nonEmpty?, Option.getD_some, if_neg (by simpa using hne), String.ofList_toList]

/-- A description that does not start with a dash is read as it stands. -/
theorem description?_spaced {s : Option String} (h : ∀ d ∈ s, d ≠ "" ∧ Trimmed d.toList)
    (hdash : ∀ d ∈ s, ¬ "- ".toList <+: d.toList) :
  description? (spaced s) = s
  := by
  rw [description?, trim_spaced h]
  split
  · rename_i r hr
    cases s with
    | none => cases hr
    | some d =>
      exfalso
      apply hdash d rfl
      rw [Option.getD_some] at hr
      exact ⟨r, hr.symm⟩
  · apply nonEmpty?_getD h

/-- A type in braces at the start of a text is read off it. -/
theorem splitType_of_parse {cs ts r : List Char} {t : TypeExpr}
    (hparse : TypeExpr.parse (String.ofList ts) = .ok t)
    (htrim : Text.trimLeft cs = '\x7b' :: ts ++ '\x7d' :: r) :
  splitType cs = .ok (some t, r)
  := by
  rw [splitType, (TypeExpr.balanced_of_parse hparse).splitBraced_eq htrim]
  simp only [hparse]

namespace Entry

variable {e : Entry}

/-- The type of a tag is read off its text. -/
theorem WellFormed.splitType_typePart (h : e.WellFormed) {r : List Char}
    (hr : e.tag.type = none → (Text.trimLeft r).head? ≠ some '\x7b') :
  splitType (e.typePart ++ r) = .ok (e.tag.type, r)
  := by
  cases ht : e.tag.type with
  | none =>
    have hpart : e.typePart = [] := by
      rw [typePart, ht]
      rfl
    rw [hpart, List.nil_append, splitType, splitBraced_of_head? (hr ht)]
  | some t =>
    have hparse := (h.type_eq t ht).2
    have htrim : Text.trimLeft (e.typePart ++ r) = '\x7b' :: e.typeText ++ '\x7d' :: r := by
      rw [typePart, ht]
      simp [Text.trimLeft, Text.isBlank]
    apply splitType_of_parse hparse htrim

/-- The name of a tag is read up to the space after it. -/
theorem takeWhile_name {n : List Char} (h : ∀ c ∈ n, Text.isBlank c = false) (s : Option String) :
  (n ++ spaced s).takeWhile (!Text.isBlank ·) = n
  := by
  have hn : ∀ c ∈ n, !Text.isBlank c := by
    intro c hc
    rw [h c hc]
    rfl
  rw [List.takeWhile_append_of_pos hn]
  cases s with
  | none => simp [spaced]
  | some d => simp [spaced, Text.isBlank]

theorem dropWhile_name {n : List Char} (h : ∀ c ∈ n, Text.isBlank c = false) (s : Option String) :
  (n ++ spaced s).dropWhile (!Text.isBlank ·) = spaced s
  := by
  have hn : ∀ c ∈ n, !Text.isBlank c := by
    intro c hc
    rw [h c hc]
    rfl
  rw [List.dropWhile_append_of_pos hn]
  cases s with
  | none => simp [spaced]
  | some d => simp [spaced, Text.isBlank]

theorem WellFormed.readNamedTag_content (h : e.WellFormed) (hn : e.tag.title ∈ namedTitles) :
  readNamedTag e.tag.title e.content = .ok e.tag
  := by
  obtain ⟨n, hmem, hgood, hbrace⟩ := h.name hn
  rw [Option.mem_def] at hmem
  obtain ⟨hne, htrim⟩ := h.trimmed_name hn n hmem
  obtain ⟨c, n', hcons⟩ := List.exists_cons_of_ne_nil (toList_ne_nil hne)
  have hname : Text.trimLeft (spaced (some n) ++ spaced e.tag.description)
      = n.toList ++ spaced e.tag.description := by
    have hc := htrim.head c (by rw [hcons]; rfl)
    rw [spaced, hcons, List.cons_append, List.cons_append]
    exact Text.trimLeft_cons_of_not hc _
  have hr : e.tag.type = none →
      (Text.trimLeft (spaced (some n) ++ spaced e.tag.description)).head? ≠ some '\x7b' := by
    intro hnone
    have hb := hbrace hnone
    rw [hname]
    rw [hcons] at hb ⊢
    exact hb
  have hcontent : e.content = e.typePart ++ (spaced (some n) ++ spaced e.tag.description) := by
    rw [content, front, if_pos hn, hmem, List.append_assoc]
  rw [readNamedTag, hcontent, h.splitType_typePart hr, ok_bind]
  dsimp only
  rw [hname]
  split
  · rename_i r hbracket
    exfalso
    apply hgood.not_bracket
    rw [hcons, List.cons_append] at hbracket
    rw [hcons, (List.cons.inj hbracket).1]
    rfl
  · rw [ok_bind]
    dsimp only
    rw [takeWhile_name hgood.not_isBlank, dropWhile_name hgood.not_isBlank,
      if_neg (by simpa using hne), description?_spaced h.trimmed_description (h.no_dash (.inl hn)),
      String.ofList_toList, ← hmem]
    rfl

theorem WellFormed.readTag_content (h : e.WellFormed) :
  readTag e.tag.title e.content = .ok e.tag
  := by
  rw [readTag]
  split
  · rename_i hn
    apply h.readNamedTag_content hn
  · rename_i hn
    split
    · rename_i ht
      have hfront : e.front = e.typePart := by
        rw [front, if_neg hn, if_pos ht]
      have hr : e.tag.type = none →
          (Text.trimLeft (spaced e.tag.description)).head? ≠ some '\x7b' := by
        intro hnone
        cases hd : e.tag.description with
        | none => simp [spaced, Text.trimLeft]
        | some d =>
          rw [spaced, trimLeft_spaced (h.trimmed_description d hd).2]
          apply h.no_brace ht hnone d hd
      rw [content, hfront, h.splitType_typePart hr, ok_bind]
      dsimp only
      rw [description?_spaced h.trimmed_description (h.no_dash (.inr ht)), ← h.no_name hn]
      rfl
    · rename_i ht
      have hfront : e.front = [] := by
        rw [front, if_neg hn, if_neg ht]
      rw [content, hfront, List.nil_append, trim_spaced h.trimmed_description,
        nonEmpty?_getD h.trimmed_description, ← h.no_name hn, ← h.no_type hn ht]
      rfl

end Entry

/-! ### Reading what is written -/

/-- The blocks of written tags. -/
theorem blocks_entries {es : List Entry} (h : ∀ e ∈ es, e.WellFormed) :
  blocks (es.flatMap fun e => Text.lines e.text)
    = ([], es.map fun e => (e.tag.title.toList, Text.lines e.content))
  := by
  induction es with
  | nil => rfl
  | cons e es ih =>
    have hes := ih fun f hf => h f (List.mem_cons_of_mem e hf)
    have hfirst : (blocks (es.flatMap fun e => Text.lines e.text)).1 = [] := by rw [hes]
    rw [List.flatMap_cons, (h e List.mem_cons_self).blocks_lines hfirst, hes]
    rfl

/-- The tags are read from their blocks. -/
theorem mapM_readTag {es : List Entry} (h : ∀ e ∈ es, e.WellFormed) :
  (es.map fun e => (e.tag.title.toList, Text.lines e.content)).mapM
    (fun b => readTag (String.ofList b.1) (Text.unlines b.2)) = .ok (es.map Entry.tag)
  := by
  induction es with
  | nil => rfl
  | cons e es ih =>
    rw [List.map_cons, List.mapM_cons, String.ofList_toList, Text.unlines_lines,
      (h e List.mem_cons_self).readTag_content, ok_bind,
      ih fun f hf => h f (List.mem_cons_of_mem e hf), ok_bind]
    rfl

/-- A written text neither starts nor ends with a blank. -/
theorem WellFormed.trimmed_body {doc : Doclet} {es : List Entry} (h : doc.WellFormed es) :
  Trimmed (body doc.description es)
  := by
  apply Text.trimmed_unlines
  intro l hl
  rcases List.mem_append.1 hl with hl | hl
  · split at hl
    · cases hl
    · rename_i hne
      rw [List.mem_singleton] at hl
      rw [hl]
      exact ⟨Text.strip_eq_self_iff.1 h.strip_eq, toList_ne_nil hne⟩
  · obtain ⟨e, he, rfl⟩ := List.mem_map.1 hl
    use (h.entry e he).trimmed_text
    simp [Entry.text]

/-- The description and the blocks of a written text. -/
theorem WellFormed.blocks_body {doc : Doclet} {es : List Entry} (h : doc.WellFormed es) :
  ∃ ls, blocks (Text.lines (body doc.description es))
      = (ls, es.map fun e => (e.tag.title.toList, Text.lines e.content))
    ∧ Text.unlines ls = doc.description.toList
  := by
  have htags := blocks_entries h.entry
  have hflat : (es.map Entry.text).flatMap Text.lines = es.flatMap fun e => Text.lines e.text :=
    List.flatMap_map _ _ _
  by_cases hd : doc.description = ""
  · rw [body, if_pos hd, List.nil_append, hd]
    cases es with
    | nil => exact ⟨[[]], rfl, rfl⟩
    | cons e es =>
      use []
      rw [Text.lines_unlines_of_ne_nil (by simp), hflat, htags]
      exact ⟨rfl, rfl⟩
  · rw [body, if_neg hd, Text.lines_unlines_of_ne_nil (by simp), List.singleton_append,
      List.flatMap_cons, hflat, blocks_append h.not_startsTag, htags]
    use Text.lines doc.description.toList ++ []
    use rfl
    rw [List.append_nil, Text.unlines_lines]

/-- What is written as a doc comment is read back. -/
theorem read_encode {doc : Doclet} {es : List Entry} (h : doc.WellFormed es) :
  read (encode doc.description es) = .ok doc
  := by
  obtain ⟨ls, hblocks, hdescription⟩ := h.blocks_body
  rw [read, encode, String.toList_ofList, unwrap_wrap h.trimmed_body, readText, hblocks]
  dsimp only
  rw [mapM_readTag h.entry, ok_bind, hdescription, h.tags_eq, ← Text.strip, h.strip_eq]
  rfl

/-- The type of a list of names that may be left out. -/
def namesType : TypeExpr :=
  .optional (.application (.name "Array") [.name "string"])

/-- A doclet with a typed parameter, an untyped result and a tag of its own. -/
def joinDoclet : Doclet where
  description := "Joins names.\n\n* in order"
  tags :=
    [{ title := "param", name := some "names", type := some namesType
       description := some "what\nto join" },
      { title := "returns", description := some "-one name" },
      { title := "example", description := some "- \x7bx\x7d" }]

/-- The tags of `joinDoclet`, with a text of the type. -/
def joinEntries : List Entry :=
  joinDoclet.tags.map fun t => { tag := t, typeText := namesType.source.toList }

theorem parse_namesType :
  TypeExpr.parse (String.ofList namesType.source.toList) = .ok namesType
  := by
  rw [String.ofList_toList]
  apply TypeExpr.parse_source
  apply TypeExpr.Shaped.optional rfl
  have harray : TypeExpr.IsName "Array" := by decide
  have hstring : TypeExpr.IsName "string" := by decide
  apply TypeExpr.Shaped.application harray (by decide) (by simp)
  simpa using TypeExpr.Shaped.name hstring (by decide)

theorem not_startsTag_of_all {ls : List (List Char)}
    (h : ls.all fun l => (tagStart? l).isNone) :
  ∀ l ∈ ls, ¬ StartsTag l
  := by
  intro l hl
  apply tagStart?_eq_none_iff.1
  simpa using List.all_eq_true.1 h l hl

theorem goodDescription_joinDoclet :
  ∀ d ∈ ["what\nto join", "-one name", "- \x7bx\x7d"], GoodDescription d
  := by
  intro d hd
  simp only [List.mem_cons, List.not_mem_nil, or_false] at hd
  rcases hd with rfl | rfl | rfl
  · exact ⟨by decide, by decide, not_startsTag_of_all rfl⟩
  · exact ⟨by decide, by decide, not_startsTag_of_all rfl⟩
  · exact ⟨by decide, by decide, not_startsTag_of_all rfl⟩

theorem wellFormed_joinDoclet :
  joinDoclet.WellFormed joinEntries
  where
  strip_eq := by decide
  not_startsTag := not_startsTag_of_all rfl
  tags_eq := rfl
  entry := by
    have hblank : ∀ c ∈ "names".toList, !Text.isBlank c := List.all_eq_true.1 rfl
    have hname : GoodName "names" := ⟨by decide, by simpa using hblank, by decide⟩
    intro e he
    obtain ⟨t, ht, rfl⟩ := List.mem_map.1 he
    simp only [joinDoclet, List.mem_cons, List.not_mem_nil, or_false] at ht
    rcases ht with rfl | rfl | rfl
    · constructor
      · decide
      · apply List.all_eq_true.1 rfl
      · rintro d ⟨⟩
        apply goodDescription_joinDoclet _ (by simp)
      · rintro t ⟨⟩
        exact ⟨by decide, parse_namesType⟩
      · intro _
        exact ⟨"names", rfl, hname, by simp⟩
      · intro h
        exact absurd (by decide) h
      · intro h
        exact absurd (by decide) h
      · rintro _ d ⟨⟩
        decide
      · intro h
        exact absurd h (by decide)
    · constructor
      · decide
      · apply List.all_eq_true.1 rfl
      · rintro d ⟨⟩
        apply goodDescription_joinDoclet _ (by simp)
      · rintro t ⟨⟩
      · intro h
        exact absurd h (by decide)
      · intro _
        rfl
      · intro _ _
        rfl
      · rintro _ d ⟨⟩
        decide
      · rintro _ _ d ⟨⟩
        decide
    · constructor
      · decide
      · apply List.all_eq_true.1 rfl
      · rintro d ⟨⟩
        apply goodDescription_joinDoclet _ (by simp)
      · rintro t ⟨⟩
      · intro h
        exact absurd h (by decide)
      · intro _
        rfl
      · intro _ _
        rfl
      · intro h
        exact absurd h (by decide)
      · intro h
        exact absurd h (by decide)

theorem read_encode_joinDoclet :
  joinDoclet.WellFormed joinEntries
    ∧ read (encode joinDoclet.description joinEntries) = .ok joinDoclet
  := ⟨wellFormed_joinDoclet, read_encode wellFormed_joinDoclet⟩

end DocPages.Doclet

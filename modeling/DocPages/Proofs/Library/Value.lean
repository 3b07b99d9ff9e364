import DocPages.Proofs.Example
import DocPages.Proofs.Library.Extract
import DocPages.Proofs.Namespace
import DocPages.Proofs.Page.Links
import DocPages.Site

/-!
# Examples in the data of a page

The number of a handler is found when a record is made, and the page looks it up in the list of
handlers that the settings give it.  The records go through a choice of tags, the grouping by
namespaces and the writing as values in between, and nothing on the way changes an example.  So the
number always leads to the handler whose pattern matches the output.
-/

namespace DocPages

/-! ### What stands in a value -/

namespace Value

/-- `Within v w`: the value `w` is `v` or stands in it, at any depth. -/
inductive Within : Value → Value → Prop where
  | self {v : Value} :
      Within v v
  | item {vs : List Value} {v w : Value} :
      v ∈ vs → Within v w → Within (.list vs) w
  | entry {es : List (Key × Value)} {k : Key} {v w : Value} :
      (k, v) ∈ es → Within v w → Within (.map es) w

/-- `P` holds of all maps within a value that have an entry with this key. -/
def Every (key : String) (P : Value → Prop) (v : Value) : Prop :=
  ∀ w, v.Within w → (w.get? key).isSome → P w

section Every

variable {key : String} {P : Value → Prop}

/-- There is no map within a value that is not a list or a map. -/
theorem every_of_atom {v : Value} (hlist : ∀ vs, v ≠ .list vs) (hmap : ∀ es, v ≠ .map es) :
  v.Every key P
  := by
  intro w hw hsome
  cases hw with
  | self =>
    cases v with
    | map es => exact absurd rfl (hmap es)
    | _ => cases hsome
  | item _ _ => exact absurd rfl (hlist _)
  | entry _ _ => exact absurd rfl (hmap _)

@[simp] theorem every_null : Value.null.Every key P := every_of_atom nofun nofun

@[simp] theorem every_bool (b : Bool) : (Value.bool b).Every key P := every_of_atom nofun nofun

@[simp] theorem every_ofNat (n : Nat) : (Value.ofNat n).Every key P := every_of_atom nofun nofun

@[simp] theorem every_text (s : String) : (Value.text s).Every key P := every_of_atom nofun nofun

@[simp] theorem every_ofText? (s : Option String) :
  (Value.ofText? s).Every key P
  := by
  cases s with
  | none => apply every_null
  | some s => apply every_text

theorem every_getD_map {α : Type} {o : Option α} {f : α → Value}
    (h : ∀ a, o = some a → (f a).Every key P) :
  ((o.map f).getD .null).Every key P
  := by
  cases o with
  | none => apply every_null
  | some a => apply h a rfl

@[simp] theorem every_list {vs : List Value} :
  (Value.list vs).Every key P ↔ ∀ v ∈ vs, v.Every key P
  := by
  constructor
  · intro h v hv w hw
    apply h w (.item hv hw)
  · intro h w hw hsome
    cases hw with
    | self => cases hsome
    | item hv hw => apply h _ hv w hw hsome

/-- A map is one of the maps within it. -/
@[simp] theorem every_map {es : List (Key × Value)} :
  (Value.map es).Every key P
    ↔ ((lookup? key es).isSome → P (.map es)) ∧ ∀ e ∈ es, e.2.Every key P
  := by
  constructor
  · intro h
    constructor
    · apply h _ .self
    · intro e he w hw
      apply h w (.entry he hw)
  · rintro ⟨hself, hentries⟩ w hw hsome
    cases hw with
    | self => apply hself hsome
    | entry he hw => apply hentries _ he w hw hsome

@[simp] theorem every_ofTexts (ss : List String) :
  (Value.ofTexts ss).Every key P
  := by
  rw [ofTexts, every_list, List.forall_mem_map]
  intro s _
  apply every_text

end Every

end Value

/-! ### Only examples have the number of a handler -/

section HandlerIndex

variable {P : Value → Prop}

@[simp] theorem Param.every_toValue (p : Param) :
  p.toValue.Every "handler_index" P
  := by
  simp [toValue, Value.lookup?]

@[simp] theorem Returned.every_toValue (r : Returned) :
  r.toValue.Every "handler_index" P
  := by
  simp [toValue, Value.lookup?]

@[simp] theorem BenchmarkCase.every_toValue (c : BenchmarkCase) :
  c.toValue.Every "handler_index" P
  := by
  simp [toValue, Value.lookup?]

@[simp] theorem BenchmarkList.every_toValue (l : BenchmarkList) :
  l.toValue.Every "handler_index" P
  := by
  simp [toValue, Benchmark.toValue, Value.lookup?]

theorem Example.every_toValue {x : Example} (hx : P x.toValue) :
  x.toValue.Every "handler_index" P
  := by
  have hindex : ((x.handler.map .ofNat).getD .null : Value).Every "handler_index" P := by
    apply Value.every_getD_map
    intro i _
    apply Value.every_ofNat
  rw [toValue, Value.every_map]
  constructor
  · intro _
    exact hx
  · simp [hindex]

theorem Record.every_toValue {r : Record} (h : ∀ x ∈ r.examples.items, P x.toValue) :
  r.toValue.Every "handler_index" P
  := by
  have hreturns : ((r.returns.map Returned.toValue).getD .null : Value).Every "handler_index" P := by
    apply Value.every_getD_map
    intro returned _
    apply Returned.every_toValue
  have hexamples : r.examples.toValue.Every "handler_index" P := by
    have hitems : ∀ x ∈ r.examples.items, x.toValue.Every "handler_index" P := by
      intro x hx
      apply Example.every_toValue (h x hx)
    simpa [ExampleList.toValue, Value.lookup?] using hitems
  simp [toValue, Value.lookup?, hreturns, hexamples]

theorem Namespace.every_toValue {ns : Namespace}
    (h : ∀ e ∈ ns.allMembers, ∀ x ∈ e.record.examples.items, P x.toValue) :
  ns.toValue.Every "handler_index" P
  := by
  have hall : ∀ e ∈ ns.allMembers, e.record.toValue.Every "handler_index" P := by
    intro e he
    apply Record.every_toValue (h e he)
  have hmembers : ∀ e ∈ ns.members, e.record.toValue.Every "handler_index" P := by
    intro e he
    apply hall e (List.mem_append_right _ he)
  have hconstructor : ((ns.constructor?.map fun e => e.record.toValue).getD .null : Value).Every
      "handler_index" P := by
    apply Value.every_getD_map
    intro e he
    apply hall e (List.mem_append_left _ (Option.mem_toList.2 he))
  simpa [toValue, Value.lookup?, hconstructor] using And.intro hmembers hall

end HandlerIndex

/-! ### Every example is shown -/

theorem Record.within_toValue {r : Record} {x : Example} (hx : x ∈ r.examples.items) :
  r.toValue.Within x.toValue
  := by
  have hlist : r.examples.toValue.Within x.toValue := by
    apply Value.Within.entry (k := "list") (v := .list (r.examples.items.map Example.toValue))
    · simp
    · apply Value.Within.item (List.mem_map_of_mem hx) .self
  apply Value.Within.entry (k := "examples") _ hlist
  simp

theorem Namespace.within_toValue {ns : Namespace} {e : Entry} (he : e ∈ ns.allMembers) {x : Example}
    (hx : x ∈ e.record.examples.items) :
  ns.toValue.Within x.toValue
  := by
  apply Value.Within.entry (k := "all_members")
    (v := .list (ns.allMembers.map fun e => e.record.toValue))
  · simp
  · apply Value.Within.item (List.mem_map_of_mem he) (Record.within_toValue hx)

/-! ### Every example has its handler -/

namespace Library

theorem forall_handled_of_ofTree {settings : Settings} {render : Renderer} {code : String} {t : Tree}
    {l : Library} (h : (ofTree settings render code t).2 = .ok l) :
  (∀ ns ∈ l.namespaces, ∀ e ∈ ns.allMembers, e.record ∈ l.records)
    ∧ ∀ r ∈ l.records, ∀ x ∈ r.examples.items, x.Handled settings.tests
  := by
  obtain ⟨links, ms, rs, summary, hrs, rfl⟩ := exists_build_of_ofTree h
  constructor
  · intro ns hns e he
    obtain ⟨name, rfl⟩ := exists_build_of_mem_namespacesOf hns
    apply Namespace.record_mem_of_mem_allMembers he
  · intro r hr x hx
    obtain ⟨m, -, name, hm⟩ := exists_ofDoclet_of_recordsOf hrs (mem_of_mem_selectRecords hr)
    rw [Record.examples_of_ofDoclet hm] at hx
    apply (ExampleList.handles_ofDoclet settings.tests m.doclet).2.handled x hx

end Library

/-! ### The data of a page -/

namespace Settings

/-- An example in the data of a page leads to its handler: its number is the place of the first of
the handlers whose pattern matches the output, and that handler has the same place in the list that
the data gives.  There is no number if no pattern matches. -/
inductive LeadsToHandler (s : Settings) (data : List (Key × Value)) (x : Value) : Prop where
  | unhandled {output : String} :
      x.get? "output" = some (.text output) →
      x.get? "has_custom_handler" = some (.bool false) →
      x.get? "handler_index" = some .null →
      (∀ h ∈ s.handlers, h.pattern.search output = false) →
      LeadsToHandler s data x
  | handled {output : String} {i : Nat} {entries : List Value} {h : Handler} :
      x.get? "output" = some (.text output) →
      x.get? "has_custom_handler" = some (.bool true) →
      x.get? "handler_index" = some (.ofNat i) →
      Value.lookup? "example_handlers" data = some (.list entries) →
      entries[i]? = some h.toValue →
      s.handlers[i]? = some h →
      h.pattern.search output →
      (∀ h' ∈ s.handlers.take i, h'.pattern.search output = false) →
      LeadsToHandler s data x

/-- Under this key of the data of a page stand these examples, and each example there leads to its
handler. -/
def ShowsExamples (s : Settings) (data : List (Key × Value)) (key : String) (xs : List Example) :
    Prop :=
  ∃ v, Value.lookup? key data = some v ∧ (∀ x ∈ xs, v.Within x.toValue)
    ∧ v.Every "handler_index" (s.LeadsToHandler data)

/-- The examples in the data of the page of a library fit the handlers in it. -/
structure Aligned (s : Settings) (l : Library) : Prop where
  handlers : Value.lookup? "example_handlers" (s.pageData l)
    = some (.list (s.handlers.map Handler.toValue))
  namespaces : s.ShowsExamples (s.pageData l) "namespaces"
    (l.namespaces.flatMap fun ns => ns.allMembers.flatMap fun e => e.record.examples.items)
  docs : (∀ e ∈ s.extraOptions, e.1 ≠ .text "docs") →
    s.ShowsExamples (s.pageData l) "docs" (l.records.flatMap fun r => r.examples.items)

variable {s : Settings}

theorem leadsToHandler_toValue {data : List (Key × Value)} {x : Example}
    (hdata : Value.lookup? "example_handlers" data = some (.list (s.handlers.map Handler.toValue)))
    (hx : x.Handled s.tests) :
  s.LeadsToHandler data x.toValue
  := by
  have houtput : x.toValue.get? "output" = some (.text x.output) := rfl
  have hcustom : x.toValue.get? "has_custom_handler" = some (.bool x.handler.isSome) := rfl
  have hindex : x.toValue.get? "handler_index" = some ((x.handler.map .ofNat).getD .null) := rfl
  cases hh : x.handler with
  | none =>
    rw [hh] at hcustom hindex
    apply LeadsToHandler.unhandled houtput hcustom hindex
    intro h hmem
    apply Bool.eq_false_iff.2
    intro hsearch
    have hsome := hx.isSome_handler_iff.2 ⟨_, List.mem_map_of_mem hmem, hsearch⟩
    rw [hh] at hsome
    cases hsome
  | some i =>
    rw [hh] at hcustom hindex
    obtain ⟨accepts, htest, haccepts⟩ := hx.accepted i hh
    rw [tests, List.getElem?_map] at htest
    obtain ⟨h, hi, rfl⟩ := Option.map_eq_some_iff.1 htest
    apply LeadsToHandler.handled houtput hcustom hindex hdata _ hi haccepts
    · intro h' hmem
      apply hx.least i hh
      rw [tests, ← List.map_take]
      apply List.mem_map_of_mem hmem
    · rw [List.getElem?_map, hi]
      rfl

theorem aligned_of_forall_handled {l : Library}
    (hextra : ∀ e ∈ s.extraOptions, e.1 ≠ .text "example_handlers" ∧ e.1 ≠ .text "namespaces")
    (hmembers : ∀ ns ∈ l.namespaces, ∀ e ∈ ns.allMembers, e.record ∈ l.records)
    (hrecords : ∀ r ∈ l.records, ∀ x ∈ r.examples.items, x.Handled s.tests) :
  s.Aligned l
  := by
  have hhandlers : Value.lookup? "example_handlers" (s.pageData l)
      = some (.list (s.handlers.map Handler.toValue)) := by
    apply Library.lookup?_pageData fun e he => (hextra e he).1
  have hleads : ∀ r ∈ l.records, ∀ x ∈ r.examples.items,
      s.LeadsToHandler (s.pageData l) x.toValue := by
    intro r hr x hx
    apply leadsToHandler_toValue hhandlers (hrecords r hr x hx)
  constructor
  · exact hhandlers
  · refine ⟨_, Library.lookup?_pageData (fun e he => (hextra e he).2) l, ?_, ?_⟩
    · intro x hx
      obtain ⟨ns, hns, hx⟩ := List.mem_flatMap.1 hx
      obtain ⟨e, he, hx⟩ := List.mem_flatMap.1 hx
      apply Value.Within.item (List.mem_map_of_mem hns) (Namespace.within_toValue he hx)
    · rw [Value.every_list, List.forall_mem_map]
      intro ns hns
      apply Namespace.every_toValue
      intro e he
      apply hleads e.record (hmembers ns hns e he)
  · intro hdocs
    refine ⟨_, Library.lookup?_pageData hdocs l, ?_, ?_⟩
    · intro x hx
      obtain ⟨r, hr, hx⟩ := List.mem_flatMap.1 hx
      apply Value.Within.item (List.mem_map_of_mem hr) (Record.within_toValue hx)
    · rw [Value.every_list, List.forall_mem_map]
      intro r hr
      apply Record.every_toValue (hleads r hr)

end Settings

namespace Library

/-- The examples of a doclet are those of its first `examples` tag and have the first handlers that
accept their outputs, and in the data of the page of any syntax tree, and so of any source, however
its tree is found, the numbers of the handlers lead to them. -/
theorem examples_lead_to_handlers (tests : List (String → Bool)) (doc : Doclet) (settings : Settings)
    (hextra : ∀ e ∈ settings.extraOptions,
      e.1 ≠ .text "example_handlers" ∧ e.1 ≠ .text "namespaces")
    (render : Renderer) (code : String) :
  (doc.FirstSays "examples" (doc.tagText "examples")
      ∧ ExampleList.Handles tests (doc.tagText "examples") (ExampleList.ofDoclet tests doc))
    ∧ (∀ t l, (ofTree settings render code t).2 = .ok l → settings.Aligned l)
    ∧ ∀ toTree l, (ofSource settings render code toTree).2 = .ok l → settings.Aligned l
  := by
  have htree : ∀ t l, (ofTree settings render code t).2 = .ok l → settings.Aligned l := by
    intro t l hl
    obtain ⟨hmembers, hrecords⟩ := forall_handled_of_ofTree hl
    apply Settings.aligned_of_forall_handled hextra hmembers hrecords
  refine ⟨ExampleList.handles_ofDoclet tests doc, htree, ?_⟩
  intro toTree l hl
  unfold ofSource at hl
  split at hl
  · cases hl
  · apply htree _ l hl

/-- Two handlers: one of outputs with an `x` in them, and one of all outputs. -/
def twoHandlers : Settings where
  handlers :=
    [{ pattern := { source := "x", node := .char ⟨false, [.single 'x'.toNat], .exact⟩ } },
      { pattern := { source := "", node := .nothing }, test := .text "check(actual)" }]
  extraOptions := [("title", .text "f")]

/-- The tree of `function f() {}` on the line after a comment with two examples. -/
def twoExamples : Tree where
  nodes :=
    #[⟨.identifier, ⟨7, 7⟩, [("name", .text "f")]⟩,
      ⟨.blockStatement, ⟨7, 7⟩, [("body", .list [])]⟩,
      ⟨.functionDeclaration, ⟨7, 7⟩, [("id", .node 0), ("params", .list []), ("body", .node 1)]⟩]
  body := [2]
  comments :=
    [⟨"*\n * F.\n *\n * @examples\n * f(1) // => y\n * f(2) // => x\n ", ⟨0, 6⟩, .block⟩]

theorem examples_lead_to_handlers_two :
  (∀ e ∈ twoHandlers.extraOptions,
      e.1 ≠ .text "example_handlers" ∧ e.1 ≠ .text "namespaces")
    ∧ ∃ l, (ofTree twoHandlers id "" twoExamples).2 = .ok l ∧ twoHandlers.Aligned l
      ∧ l.records.map (fun r => r.examples.items.map Example.handler) = [[some 1, some 0]]
  := by
  have hextra : ∀ e ∈ twoHandlers.extraOptions,
      e.1 ≠ .text "example_handlers" ∧ e.1 ≠ .text "namespaces" := by
    simp [twoHandlers]
  use hextra
  have hhandlers : (ofTree twoHandlers id "" twoExamples).2.toOption.map
      (fun l => l.records.map fun r => r.examples.items.map Example.handler)
        = some [[some 1, some 0]] := by
    decide +kernel
  obtain ⟨-, htree, -⟩ :=
    examples_lead_to_handlers twoHandlers.tests {} twoHandlers hextra id ""
  have haligned := htree twoExamples
  generalize (ofTree twoHandlers id "" twoExamples).2 = answer at hhandlers haligned ⊢
  cases answer with
  | error e => cases hhandlers
  | ok l => exact ⟨l, rfl, haligned l rfl, Option.some_inj.1 hhandlers⟩

end Library

end DocPages

import DocPages.Proofs.Library.Value

/-!
# What the report of a library leaves out

A library is reported without the map entries that are nothing.  This keeps all that there is to
know: each record has its fields, some of them optional, and only an optional field is ever nothing.
So the value of a library comes back if each optional field that is not there is put in as nothing.
A `Form` says which fields these are, and `Form.restore` puts them in.
-/

namespace DocPages

namespace Value

/-! ### Values without empty entries -/

/-- What holds of a list or a map whenever it holds of all in it, and of every other value, holds of
all values. -/
@[elab_as_elim]
theorem byParts {P : Value → Prop} (list : ∀ vs, (∀ v ∈ vs, P v) → P (.list vs))
    (map : ∀ es, (∀ e ∈ es, P e.2) → P (.map es))
    (atom : ∀ v, (∀ vs, v ≠ .list vs) → (∀ es, v ≠ .map es) → P v) (v : Value) :
  P v
  := by
  apply @Value.rec P (fun vs => ∀ v ∈ vs, P v) (fun es => ∀ e ∈ es, P e.2) (fun e => P e.2)
  · exact atom _ nofun nofun
  · exact fun _ => atom _ nofun nofun
  · exact fun _ => atom _ nofun nofun
  · exact fun _ => atom _ nofun nofun
  · exact fun _ => atom _ nofun nofun
  · exact fun _ => atom _ nofun nofun
  · exact list
  · exact map
  · exact fun _ => nofun
  · intro v vs hv hvs
    exact List.forall_mem_cons.2 ⟨hv, hvs⟩
  · exact fun _ => nofun
  · intro e es he hes
    exact List.forall_mem_cons.2 ⟨he, hes⟩
  · intro _ _ hv
    exact hv

theorem itemsWithoutNulls_eq_map (vs : List Value) :
  itemsWithoutNulls vs = vs.map withoutNulls
  := by
  induction vs with
  | nil => rfl
  | cons v vs ih => rw [itemsWithoutNulls, ih, List.map_cons]

theorem entriesWithoutNulls_null (k : Key) (es : List (Key × Value)) :
  entriesWithoutNulls ((k, .null) :: es) = entriesWithoutNulls es
  := rfl

theorem entriesWithoutNulls_cons (k : Key) {v : Value} (hv : v ≠ .null) (es : List (Key × Value)) :
  entriesWithoutNulls ((k, v) :: es) = (k, v.withoutNulls) :: entriesWithoutNulls es
  := by
  cases v with
  | null => exact absurd rfl hv
  | _ => rfl

theorem withoutNulls_of_atom {v : Value} (hlist : ∀ vs, v ≠ .list vs) (hmap : ∀ es, v ≠ .map es) :
  v.withoutNulls = v
  := by
  cases v with
  | list vs => exact absurd rfl (hlist vs)
  | map es => exact absurd rfl (hmap es)
  | _ => rfl

theorem withoutNulls_eq_null_iff {v : Value} :
  v.withoutNulls = .null ↔ v = .null
  := by
  cases v with
  | null => exact Iff.rfl
  | _ => exact ⟨nofun, nofun⟩

/-- The entries that are left are those that were not nothing. -/
theorem exists_of_mem_entriesWithoutNulls {es : List (Key × Value)} {e : Key × Value}
    (h : e ∈ entriesWithoutNulls es) :
  ∃ v, (e.1, v) ∈ es ∧ v ≠ .null ∧ e.2 = v.withoutNulls
  := by
  induction es with
  | nil => cases h
  | cons e' es ih =>
    obtain ⟨k, v⟩ := e'
    by_cases hv : v = .null
    · subst hv
      obtain ⟨w, hw, hrest⟩ := ih h
      exact ⟨w, List.mem_cons_of_mem _ hw, hrest⟩
    · rw [entriesWithoutNulls_cons k hv] at h
      rcases List.mem_cons.1 h with rfl | h
      · exact ⟨v, List.mem_cons_self, hv, rfl⟩
      · obtain ⟨w, hw, hrest⟩ := ih h
        exact ⟨w, List.mem_cons_of_mem _ hw, hrest⟩

/-- No map within the value has an entry that is nothing. -/
def NoNullEntries (v : Value) : Prop :=
  ∀ es, v.Within (.map es) → ∀ e ∈ es, e.2 ≠ .null

/-- Whatever stands in a value without its empty entries is itself such a value. -/
theorem exists_withoutNulls_of_within {v w : Value} (h : v.withoutNulls.Within w) :
  ∃ u : Value, w = u.withoutNulls
  := by
  generalize hv : v.withoutNulls = v' at h
  induction h generalizing v with
  | self => exact ⟨v, hv.symm⟩
  | item hmem _ ih =>
    cases v with
    | list us =>
      rw [withoutNulls, itemsWithoutNulls_eq_map] at hv
      cases hv
      obtain ⟨u, -, hu⟩ := List.mem_map.1 hmem
      apply ih hu
    | _ => cases hv
  | entry hmem _ ih =>
    cases v with
    | map es =>
      cases hv
      obtain ⟨u, -, -, hu⟩ := exists_of_mem_entriesWithoutNulls hmem
      apply ih hu.symm
    | _ => cases hv

theorem noNullEntries_withoutNulls (v : Value) :
  v.withoutNulls.NoNullEntries
  := by
  intro es hes e he
  obtain ⟨u, hu⟩ := exists_withoutNulls_of_within hes
  cases u with
  | map us =>
    cases hu
    obtain ⟨w, -, hw, hwe⟩ := exists_of_mem_entriesWithoutNulls he
    rw [hwe, ne_eq, withoutNulls_eq_null_iff]
    exact hw
  | _ => cases hu

theorem NoNullEntries.item {vs : List Value} (h : (Value.list vs).NoNullEntries) {v : Value}
    (hv : v ∈ vs) :
  v.NoNullEntries
  := fun es hes => h es (.item hv hes)

theorem NoNullEntries.entry {es : List (Key × Value)} (h : (Value.map es).NoNullEntries)
    {e : Key × Value} (he : e ∈ es) :
  e.2.NoNullEntries
  := fun es' hes => h es' (.entry he hes)

theorem entriesWithoutNulls_eq_self {es : List (Key × Value)}
    (h : ∀ e ∈ es, e.2 ≠ .null ∧ e.2.withoutNulls = e.2) :
  entriesWithoutNulls es = es
  := by
  induction es with
  | nil => rfl
  | cons e es ih =>
    rw [List.forall_mem_cons] at h
    obtain ⟨⟨hnull, hself⟩, hes⟩ := h
    rw [entriesWithoutNulls_cons e.1 hnull, hself, ih hes]

/-- There is nothing to leave out of a value with no empty entries. -/
theorem withoutNulls_eq_self {v : Value} (h : v.NoNullEntries) :
  v.withoutNulls = v
  := by
  induction v using byParts with
  | list vs ih =>
    have hself : ∀ v ∈ vs, v.withoutNulls = id v := fun v hv => ih v hv (h.item hv)
    rw [withoutNulls, itemsWithoutNulls_eq_map, List.map_congr_left hself, List.map_id]
  | map es ih =>
    rw [withoutNulls, entriesWithoutNulls_eq_self]
    intro e he
    exact ⟨h es .self e he, ih e he (h.entry he)⟩
  | atom v hlist hmap => apply withoutNulls_of_atom hlist hmap

theorem withoutNulls_withoutNulls (v : Value) :
  v.withoutNulls.withoutNulls = v.withoutNulls
  := withoutNulls_eq_self (noNullEntries_withoutNulls v)

/-! ### Forms -/

mutual

/-- The form of a value: a single one such as a text, a list of values of one form, or a map with
some fields. -/
inductive Form where
  | atom
  | list (item : Form)
  | map (fields : Fields)

/-- The fields of a map, in their order, and whether each is optional: then it may be nothing. -/
inductive Fields where
  | nil
  | field (name : String) (optional : Bool) (form : Form) (rest : Fields)

end

namespace Fields

/-- A field that is never nothing, and others after it. -/
def required (name : String) (form : Form) (rest : Fields) : Fields :=
  field name false form rest

/-- A field that may be nothing, and others after it. -/
def optional (name : String) (form : Form) (rest : Fields) : Fields :=
  field name true form rest

/-- The names of the fields. -/
def names : Fields → List String
  | nil => []
  | field name _ _ rest => name :: rest.names

end Fields

mutual

/-- Do all maps have fields of different names? -/
def Form.isProper : Form → Bool
  | .atom => true
  | .list item => item.isProper
  | .map fields => fields.isProper
termination_by structural f => f

/-- `isProper` of fields. -/
def Fields.isProper : Fields → Bool
  | .nil => true
  | .field name _ form rest => !rest.names.contains name && form.isProper && rest.isProper
termination_by structural fs => fs

end

mutual

/-- The value is of a form. -/
def Form.Fits : Form → Value → Prop
  | .atom, v => v ≠ .null ∧ (∀ vs, v ≠ .list vs) ∧ ∀ es, v ≠ .map es
  | .list item, .list vs => ∀ v ∈ vs, item.Fits v
  | .map fields, .map es => fields.Fits es
  | _, _ => False
termination_by structural f => f

/-- The entries are those of some fields. -/
def Fields.Fits : Fields → List (Key × Value) → Prop
  | .nil, [] => True
  | .field name optional form rest, (k, v) :: es =>
    k = .text name ∧ (optional ∧ v = .null ∨ form.Fits v) ∧ rest.Fits es
  | _, _ => False
termination_by structural fs => fs

end

mutual

/-- The value with nothing in the place of each optional field that is not there. -/
def Form.restore : Form → Value → Value
  | .list item, .list vs => .list (vs.map item.restore)
  | .map fields, .map es => .map (fields.restore es)
  | _, v => v
termination_by structural f => f

/-- The entries with nothing in the place of each optional field that is not there. -/
def Fields.restore : Fields → List (Key × Value) → List (Key × Value)
  | .nil, _ => []
  | .field name optional form rest, es =>
    match lookup? name es with
    | some v => (.text name, form.restore v) :: rest.restore es
    | none => if optional then (.text name, .null) :: rest.restore es else rest.restore es
termination_by structural fs => fs

end

theorem Form.Fits.ne_null {f : Form} {v : Value} (h : f.Fits v) :
  v ≠ .null
  := by
  cases f with
  | atom => exact h.1
  | list item =>
    rintro rfl
    exact h
  | map fields =>
    rintro rfl
    exact h

theorem lookup?_eq_none {name : String} {es : List (Key × Value)}
    (h : ∀ e ∈ es, e.1 ≠ .text name) :
  lookup? name es = none
  := by
  induction es with
  | nil => rfl
  | cons e es ih =>
    rw [List.forall_mem_cons] at h
    rw [lookup?, if_neg h.1, ih h.2]

namespace Fields

/-- An entry that belongs to no field does not matter. -/
theorem restore_cons_of_not_mem {k : String} (v : Value) (es : List (Key × Value)) :
    ∀ {fs : Fields}, k ∉ fs.names → fs.restore ((.text k, v) :: es) = fs.restore es
  | .nil, _ => rfl
  | .field name optional form rest, hk => by
      rw [names, List.mem_cons, not_or] at hk
      have hne : Key.text k ≠ .text name := fun h => hk.1 (Key.text.inj h)
      rw [restore, restore, lookup?, if_neg hne, restore_cons_of_not_mem v es hk.2]

theorem Fits.exists_name :
    ∀ {fs : Fields} {es : List (Key × Value)}, fs.Fits es →
      ∀ e ∈ es, ∃ name ∈ fs.names, e.1 = .text name
  | .nil, [], _, _, he => absurd he List.not_mem_nil
  | .field name _ _ rest, (_, _) :: _, ⟨hk, _, hrest⟩, e, he => by
      rcases List.mem_cons.1 he with rfl | he
      · exact ⟨name, List.mem_cons_self, hk⟩
      · obtain ⟨n, hn, hen⟩ := exists_name hrest e he
        exact ⟨n, List.mem_cons_of_mem _ hn, hen⟩

theorem Fits.eq_null_or_exists :
    ∀ {fs : Fields} {es : List (Key × Value)}, fs.Fits es →
      ∀ e ∈ es, e.2 = .null ∨ ∃ f : Form, f.Fits e.2
  | .nil, [], _, _, he => absurd he List.not_mem_nil
  | .field _ _ form _, (_, _) :: _, ⟨_, hv, hrest⟩, e, he => by
      rcases List.mem_cons.1 he with rfl | he
      · exact hv.imp And.right fun hfits => ⟨form, hfits⟩
      · apply eq_null_or_exists hrest e he

theorem lookup?_entriesWithoutNulls_of_not_mem {fs : Fields} {es : List (Key × Value)}
    (h : fs.Fits es) {name : String} (hname : name ∉ fs.names) :
  lookup? name (entriesWithoutNulls es) = none
  := by
  apply lookup?_eq_none
  intro e he hk
  obtain ⟨v, hv, -⟩ := exists_of_mem_entriesWithoutNulls he
  obtain ⟨n, hn, hen⟩ := h.exists_name _ hv
  obtain rfl := Key.text.inj (hk.symm.trans hen)
  exact hname hn

end Fields

mutual

/-- A value of a form comes back from what is left of it without its empty entries. -/
theorem Form.restore_withoutNulls :
    ∀ {f : Form} {v : Value}, f.isProper → f.Fits v → f.restore v.withoutNulls = v
  | .atom, v, _, ⟨_, hlist, hmap⟩ => by
      rw [withoutNulls_of_atom hlist hmap, Form.restore]
      · exact fun _ _ => nofun
      · exact fun _ _ => nofun
  | .list item, .list vs, hproper, hfits => by
      have hself : ∀ v ∈ vs, (item.restore ∘ withoutNulls) v = id v :=
        fun v hv => Form.restore_withoutNulls hproper (hfits v hv)
      rw [withoutNulls, itemsWithoutNulls_eq_map, Form.restore, List.map_map,
        List.map_congr_left hself, List.map_id]
  | .map fields, .map es, hproper, hfits => by
      rw [withoutNulls, Form.restore, Fields.restore_entriesWithoutNulls hproper hfits]

/-- Entries of fields come back from those that are not nothing. -/
theorem Fields.restore_entriesWithoutNulls :
    ∀ {fs : Fields} {es : List (Key × Value)}, fs.isProper → fs.Fits es →
      fs.restore (entriesWithoutNulls es) = es
  | .nil, [], _, _ => rfl
  | .field name optional form rest, (k, v) :: es, hproper, ⟨hk, hv, hrest⟩ => by
      subst hk
      rw [Fields.isProper, Bool.and_eq_true, Bool.and_eq_true, Bool.not_eq_true',
        List.contains_eq_mem, decide_eq_false_iff_not] at hproper
      obtain ⟨⟨hname, hform⟩, hproper⟩ := hproper
      have hes := Fields.restore_entriesWithoutNulls hproper hrest
      rcases hv with ⟨hoptional, rfl⟩ | hv
      · have hlookup := Fields.lookup?_entriesWithoutNulls_of_not_mem hrest hname
        rw [entriesWithoutNulls_null, Fields.restore, hlookup, hes]
        apply if_pos hoptional
      · have hlookup : lookup? name ((.text name, v.withoutNulls) :: entriesWithoutNulls es)
            = some v.withoutNulls := if_pos rfl
        rw [entriesWithoutNulls_cons _ hv.ne_null, Fields.restore, hlookup,
          Fields.restore_cons_of_not_mem _ _ hname, hes]
        dsimp only
        rw [Form.restore_withoutNulls hform hv]

end

/-- No list within a value of a form has a null as an item. -/
theorem Form.Fits.null_not_mem {f : Form} {v : Value} (h : f.Fits v) {vs : List Value}
    (hvs : v.Within (.list vs)) :
  .null ∉ vs
  := by
  generalize hw : Value.list vs = w at hvs
  induction hvs generalizing f with
  | self =>
    subst hw
    cases f with
    | atom => exact absurd rfl (h.2.1 vs)
    | list item => exact fun hnull => (h _ hnull).ne_null rfl
    | map fields => exact h.elim
  | item hmem _ ih =>
    cases f with
    | atom => exact absurd rfl (h.2.1 _)
    | list item => apply ih (h _ hmem) hw
    | map fields => exact h.elim
  | entry hmem hwithin ih =>
    cases f with
    | atom => exact absurd rfl (h.2.2 _)
    | list item => exact h.elim
    | map fields =>
      rcases Fields.Fits.eq_null_or_exists h _ hmem with hnull | ⟨g, hg⟩
      · obtain rfl : _ = Value.null := hnull
        cases hwithin
        cases hw
      · apply ih hg hw

section Fits

variable {name : String} {form : Form} {rest : Fields} {k : Key} {v : Value}
  {es : List (Key × Value)}

@[simp] theorem fits_atom_text (s : String) : Form.atom.Fits (.text s) := ⟨nofun, nofun, nofun⟩

@[simp] theorem fits_atom_bool (b : Bool) : Form.atom.Fits (.bool b) := ⟨nofun, nofun, nofun⟩

@[simp] theorem fits_atom_ofNat (n : Nat) : Form.atom.Fits (.ofNat n) := ⟨nofun, nofun, nofun⟩

@[simp] theorem fits_list_map {α : Type} {xs : List α} {f : α → Value} :
  (Form.list form).Fits (.list (xs.map f)) ↔ ∀ x ∈ xs, form.Fits (f x)
  := List.forall_mem_map

@[simp] theorem fits_map {fs : Fields} : (Form.map fs).Fits (.map es) ↔ fs.Fits es := Iff.rfl

@[simp] theorem fits_nil : Fields.nil.Fits [] := trivial

@[simp] theorem fits_required :
  (Fields.required name form rest).Fits ((k, v) :: es)
    ↔ k = .text name ∧ form.Fits v ∧ rest.Fits es
  := by
  simp [Fields.required, Fields.Fits]

@[simp] theorem fits_optional :
  (Fields.optional name form rest).Fits ((k, v) :: es)
    ↔ k = .text name ∧ (v = .null ∨ form.Fits v) ∧ rest.Fits es
  := by
  simp [Fields.optional, Fields.Fits]

theorem eq_null_or_fits_getD {α : Type} (o : Option α) {f : α → Value}
    (h : ∀ a, form.Fits (f a)) :
  (o.map f).getD .null = .null ∨ form.Fits ((o.map f).getD .null)
  := by
  cases o with
  | none => exact .inl rfl
  | some a => exact .inr (h a)

@[simp] theorem eq_null_or_fits_ofText? (o : Option String) :
  ofText? o = .null ∨ Form.atom.Fits (ofText? o)
  := by
  cases o with
  | none => exact .inl rfl
  | some s => exact .inr (fits_atom_text s)

end Fits

end Value

/-! ### The form of a library -/

open Value (Form)

/-- The form of an example. -/
def Example.form : Form :=
  .map <| .required "id" .atom <| .required "input" .atom <| .required "input_for_js" .atom <|
    .required "output" .atom <| .required "output_for_js" .atom <|
    .required "has_custom_handler" .atom <| .optional "handler_index" .atom <|
    .optional "output_pattern" .atom .nil

/-- The form of examples. -/
def ExampleList.form : Form :=
  .map <| .required "code" .atom <| .required "setup" .atom <|
    .required "list" (.list Example.form) .nil

/-- The form of a case of a benchmark. -/
def BenchmarkCase.form : Form :=
  .map <| .required "case_id" .atom <| .required "impl" .atom <| .required "name" .atom <|
    .required "label" .atom .nil

/-- The form of a benchmark. -/
def Benchmark.form : Form :=
  .map <| .required "id" .atom <| .required "name" .atom <|
    .required "cases" (.list BenchmarkCase.form) .nil

/-- The form of benchmarks. -/
def BenchmarkList.form : Form :=
  .map <| .required "code" .atom <| .required "setup" .atom <|
    .required "cases" (.list BenchmarkCase.form) <| .required "list" (.list Benchmark.form) .nil

/-- The form of a parameter. -/
def Param.form : Form :=
  .map <| .optional "name" .atom <| .optional "type" .atom <| .required "description" .atom .nil

/-- The form of a result. -/
def Returned.form : Form :=
  .map <| .optional "type" .atom <| .required "description" .atom .nil

/-- The form of a record. -/
def Record.form : Form :=
  .map <| .required "name" .atom <| .required "short_name" .atom <|
    .required "identifier" .atom <| .optional "namespace" .atom <|
    .required "description" .atom <| .required "params" (.list Param.form) <|
    .optional "returns" Returned.form <| .required "is_constructor" .atom <|
    .required "is_static" .atom <| .required "is_public" .atom <|
    .required "has_signature" .atom <| .required "signature" .atom <|
    .required "examples" ExampleList.form <| .required "has_examples" .atom <|
    .required "benchmarks" BenchmarkList.form <| .required "has_benchmarks" .atom <|
    .required "tags" (.list .atom) <| .required "section_type" .atom .nil

/-- The form of a namespace. -/
def Namespace.form : Form :=
  .map <| .required "namespace" .atom <| .optional "constructor" Record.form <|
    .required "members" (.list Record.form) <| .required "all_members" (.list Record.form) <|
    .required "has_examples" .atom <| .required "has_benchmarks" .atom .nil

/-- The form of a library. -/
def Library.form : Form :=
  .map <| .optional "name" .atom <| .optional "reference_name" .atom <|
    .required "description" .atom <| .required "code" .atom <|
    .required "namespaces" (.list Namespace.form) <| .required "docs" (.list Record.form) .nil

theorem Example.fits_toValue (x : Example) :
  form.Fits x.toValue
  := by
  have hindex := Value.eq_null_or_fits_getD x.handler Value.fits_atom_ofNat
  simp [form, toValue, hindex]

theorem ExampleList.fits_toValue (l : ExampleList) :
  form.Fits l.toValue
  := by
  simp [form, toValue, Example.fits_toValue]

theorem BenchmarkCase.fits_toValue (c : BenchmarkCase) :
  form.Fits c.toValue
  := by
  simp [form, toValue]

theorem BenchmarkList.fits_toValue (l : BenchmarkList) :
  form.Fits l.toValue
  := by
  simp [form, toValue, Benchmark.form, Benchmark.toValue, BenchmarkCase.fits_toValue]

theorem Param.fits_toValue (p : Param) :
  form.Fits p.toValue
  := by
  simp [form, toValue]

theorem Returned.fits_toValue (r : Returned) :
  form.Fits r.toValue
  := by
  simp [form, toValue]

theorem Record.fits_toValue (r : Record) :
  form.Fits r.toValue
  := by
  have hreturns := Value.eq_null_or_fits_getD r.returns Returned.fits_toValue
  simp [form, toValue, Value.ofTexts, hreturns, Param.fits_toValue, ExampleList.fits_toValue,
    BenchmarkList.fits_toValue]

theorem Namespace.fits_toValue (ns : Namespace) :
  form.Fits ns.toValue
  := by
  have hconstructor := Value.eq_null_or_fits_getD ns.constructor? fun e : Entry =>
    e.record.fits_toValue
  simp [form, toValue, hconstructor, Record.fits_toValue]

theorem Library.fits_toValue (l : Library) :
  form.Fits l.toValue
  := by
  simp [form, toValue, toEntries, Namespace.fits_toValue, Record.fits_toValue]

namespace Library

theorem isProper_form :
  form.isProper
  := by
  decide

/-- Leaving out empty entries leaves none, and a second time changes nothing.  A library comes back
from what is left of its value, and no list in it has a null as an item; the same holds of any other
value with the fields of a library, whatever stands in them. -/
theorem restore_withoutNulls_toValue (v : Value) (l : Library) :
  v.withoutNulls.withoutNulls = v.withoutNulls
    ∧ v.withoutNulls.NoNullEntries
    ∧ form.restore l.toValue.withoutNulls = l.toValue
    ∧ (∀ vs, l.toValue.Within (.list vs) → .null ∉ vs)
    ∧ (form.Fits v →
      form.restore v.withoutNulls = v ∧ ∀ vs, v.Within (.list vs) → .null ∉ vs)
  := by
  have hrestore : ∀ w, form.Fits w →
      form.restore w.withoutNulls = w ∧ ∀ vs, w.Within (.list vs) → .null ∉ vs := by
    intro w hw
    exact ⟨Form.restore_withoutNulls isProper_form hw, fun vs hvs => hw.null_not_mem hvs⟩
  obtain ⟨hvalue, hlists⟩ := hrestore l.toValue l.fits_toValue
  exact ⟨Value.withoutNulls_withoutNulls v, Value.noNullEntries_withoutNulls v, hvalue, hlists,
    hrestore v⟩

example :
  Param.form.restore (.map [("description", .text "All names.")])
    = .map [("name", .null), ("type", .null), ("description", .text "All names.")]
  := rfl

end Library

end DocPages

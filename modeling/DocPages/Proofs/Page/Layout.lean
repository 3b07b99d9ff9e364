import DocPages.Library.Value
import DocPages.Proofs.Page.Piece
import DocPages.Proofs.Record

/-!
# The parts of a page

The list of links of a library is tidy, and its targets are the places of the namespaces and of the
functions shown in them.  In the main part, each namespace has its section and each function that
is shown its article.
-/

namespace DocPages.Page

/-! ### Pieces for each item -/

theorem forEach_cons {v : Value} {vs : List Value} {f : Value → Except PageError (List Piece)}
    {ps qs : List Piece} (hv : f v = .ok ps) (hvs : forEach vs f = .ok qs) :
  forEach (v :: vs) f = .ok (ps ++ qs)
  := by
  rw [forEach] at hvs ⊢
  rw [List.mapM_cons, hv, ok_bind]
  cases hm : vs.mapM f with
  | error e =>
    rw [hm] at hvs
    cases hvs
  | ok pss =>
    rw [hm] at hvs
    cases hvs
    rfl

/-- If there are pieces for each item, they are all parts of those of all items. -/
theorem exists_forEach {vs : List Value} {f : Value → Except PageError (List Piece)}
    (h : ∀ v ∈ vs, ∃ ps, f v = .ok ps) :
  ∃ ps, forEach vs f = .ok ps ∧ ∀ v ∈ vs, ∀ qs, f v = .ok qs → qs <:+: ps
  := by
  induction vs with
  | nil => exact ⟨[], rfl, fun v hv => by cases hv⟩
  | cons v vs ih =>
    rw [List.forall_mem_cons] at h
    obtain ⟨⟨ps, hps⟩, h⟩ := h
    obtain ⟨qs, hqs, hall⟩ := ih h
    use ps ++ qs, forEach_cons hps hqs
    rw [List.forall_mem_cons]
    constructor
    · intro rs hrs
      cases hps.symm.trans hrs
      apply (List.prefix_append ps qs).isInfix
    · intro w hw rs hrs
      apply (hall w hw rs hrs).trans (List.suffix_append ps qs).isInfix

/-- If what is made of each item is known, so is what is made of all. -/
theorem forEach_map {α : Type} {xs : List α} {toValue : α → Value}
    {f : Value → Except PageError (List Piece)} {g : α → List Piece}
    (h : ∀ x, f (toValue x) = .ok (g x)) :
  forEach (xs.map toValue) f = .ok (xs.flatMap g)
  := by
  induction xs with
  | nil => rfl
  | cons x xs ih =>
    rw [List.map_cons, List.flatMap_cons]
    apply forEach_cons (h x) ih

theorem exists_forEach_pure (vs : List Value) (g : Value → List Piece) :
  ∃ ps, forEach vs (fun v => return g v) = .ok ps
  := by
  obtain ⟨ps, hps, -⟩ := exists_forEach (f := fun v => return g v) fun v (_ : v ∈ vs) => ⟨_, rfl⟩
  exact ⟨ps, hps⟩

theorem exists_onlyIf {b : Bool} {r : Except PageError (List Piece)} (h : ∃ ps, r = .ok ps) :
  ∃ ps, onlyIf b r = .ok ps
  := by
  cases b with
  | false => exact ⟨[], rfl⟩
  | true => apply h

/-- What goes well step by step goes well. -/
theorem exists_bind {α β : Type} {x : Except PageError α} {f : α → Except PageError β} {a : α}
    (hx : x = .ok a) (hf : ∃ b, f a = .ok b) :
  ∃ b, x >>= f = .ok b
  := by
  rw [hx]
  apply hf

/-! ### The list of links -/

/-- The links to a namespace and to what is shown in it. -/
def navigationOf (ns : Namespace) : List Piece :=
  [line "      <li>", .text "        <a ", .link (namespacePlace ns.toValue)]
    ++ lineWith ">" (.filled (.text ns.name)) "</a>" ++ [line "        <ul>"]
    ++ (ns.allMembers.flatMap fun e => memberLinkPieces e.record.toValue)
    ++ [line "        </ul>", line "      </li>"]

theorem namespaceLinkPieces_toValue (ns : Namespace) :
  namespaceLinkPieces ns.toValue = .ok (navigationOf ns)
  := by
  have hmembers : forEach (ns.allMembers.map fun e => e.record.toValue)
      (fun m => return memberLinkPieces m)
      = .ok (ns.allMembers.flatMap fun e => memberLinkPieces e.record.toValue) := by
    apply forEach_map
    intro e
    rfl
  have hitems : (Slot.ofValue ns.toValue "all_members").items
      = .ok (ns.allMembers.map fun e => e.record.toValue) := rfl
  rw [namespaceLinkPieces, hitems, ok_bind, hmembers]
  rfl

theorem tidy_text {s : String} {ps : List Piece} (hs : '"' ∉ s.toList) (hp : Tidy ps) :
  Tidy (.text s :: ps)
  := by
  apply Tidy.plain _ hp
  rw [Piece.toMarkup]
  apply hs

theorem tidy_line {s : String} {ps : List Piece} (hs : '"' ∉ s.toList) (hp : Tidy ps) :
  Tidy (line s :: ps)
  := by
  apply tidy_text _ hp
  simpa using hs

/-- A link is followed by what it shows. -/
theorem tidy_link (target : String) (s : Slot) {after : String} {ps : List Piece}
    (ha : '"' ∉ after.toList) (hp : Tidy ps) :
  Tidy (.link target :: (lineWith ">" s after ++ ps))
  := by
  apply Tidy.link
  apply Tidy.plain
  · rw [Piece.toMarkup, Piece.dataMarkup, if_pos rfl]
    apply Markup.quote_not_mem_escapeAttribute
  · apply tidy_line ha hp

theorem tidy_memberLinkPieces (member : Value) :
  Tidy (memberLinkPieces member)
  := by
  apply tidy_text (by decide)
  apply tidy_link _ _ (by decide) Tidy.nil

theorem tidy_navigationOf (ns : Namespace) :
  Tidy (navigationOf ns)
  := by
  have hmembers : Tidy (ns.allMembers.flatMap fun e => memberLinkPieces e.record.toValue) := by
    apply Tidy.flatten
    intro ps hps
    obtain ⟨e, -, rfl⟩ := List.mem_map.1 hps
    apply tidy_memberLinkPieces
  have hend : Tidy [line "        </ul>", line "      </li>"] :=
    tidy_line (by decide) (tidy_line (by decide) Tidy.nil)
  rw [navigationOf, List.append_assoc, List.append_assoc, List.append_assoc]
  apply tidy_line (by decide)
  apply tidy_text (by decide)
  apply tidy_link _ _ (by decide)
  apply tidy_line (by decide)
  apply hmembers.append hend

theorem targets_append (ps qs : List Piece) :
  targets (ps ++ qs) = targets ps ++ targets qs
  := List.filterMap_append

theorem mem_targets_flatMap {α : Type} {xs : List α} {g : α → List Piece} {target : String} :
  target ∈ targets (xs.flatMap g) ↔ ∃ x ∈ xs, target ∈ targets (g x)
  := by
  rw [targets, List.filterMap_flatMap, List.mem_flatMap]
  rfl

theorem targets_navigationOf (ns : Namespace) :
  targets (navigationOf ns)
    = namespacePlace ns.toValue :: ns.allMembers.map fun e => e.record.name.identifier
  := by
  have hmembers : ∀ es : List Entry,
      targets (es.flatMap fun e => memberLinkPieces e.record.toValue)
        = es.map fun e => e.record.name.identifier := by
    intro es
    induction es with
    | nil => rfl
    | cons e es ih =>
      rw [List.flatMap_cons, targets_append, ih]
      rfl
  rw [navigationOf, targets_append, targets_append, hmembers]
  apply List.append_nil

theorem mem_targets_navigationOf {ns : Namespace} {target : String}
    (ht : target ∈ targets (navigationOf ns)) :
  target = namespacePlace ns.toValue ∨ ∃ e ∈ ns.allMembers, target = e.record.name.identifier
  := by
  rw [targets_navigationOf] at ht
  rcases List.mem_cons.1 ht with ht | ht
  · left
    exact ht
  · right
    obtain ⟨e, he, rfl⟩ := List.mem_map.1 ht
    exact ⟨e, he, rfl⟩

/-- The list of links is tidy, and its links lead to the namespaces and to what is shown in them. -/
theorem exists_navigationPieces {data : List (Key × Value)} {nss : List Namespace}
    (hd : Slot.ofData data "namespaces" = .filled (.list (nss.map Namespace.toValue))) :
  ∃ nav, navigationPieces data = .ok nav ∧ Tidy nav
    ∧ ∀ target ∈ targets nav, ∃ ns ∈ nss, target = namespacePlace ns.toValue
      ∨ ∃ e ∈ ns.allMembers, target = e.record.name.identifier
  := by
  have hnss : forEach (nss.map Namespace.toValue) namespaceLinkPieces
      = .ok (nss.flatMap navigationOf) := forEach_map namespaceLinkPieces_toValue
  have htidy : Tidy (nss.flatMap navigationOf) := by
    apply Tidy.flatten
    intro ps hps
    obtain ⟨ns, -, rfl⟩ := List.mem_map.1 hps
    apply tidy_navigationOf
  have hend : Tidy [line "    </ul>", line "  </nav>", line ""] :=
    tidy_line (by decide) (tidy_line (by decide) (tidy_line (by decide) Tidy.nil))
  refine ⟨[line "  <nav>", line "    <ul>"] ++ nss.flatMap navigationOf
    ++ [line "    </ul>", line "  </nav>", line ""], ?_, ?_, ?_⟩
  · rw [navigationPieces, hd, Slot.items, ok_bind, hnss]
    rfl
  · rw [List.append_assoc]
    apply tidy_line (by decide)
    apply tidy_line (by decide)
    apply htidy.append hend
  · intro target ht
    rw [targets_append, targets_append] at ht
    rcases List.mem_append.1 ht with ht | ht
    · rcases List.mem_append.1 ht with ht | ht
      · cases ht
      · obtain ⟨ns, hns, ht⟩ := mem_targets_flatMap.1 ht
        exact ⟨ns, hns, mem_targets_navigationOf ht⟩
    · cases ht

/-! ### Articles -/

/-- The start of the article of a function. -/
def articleHead (r : Record) : List Piece :=
  [.text "      <article class=\"", .data r.sectionKind, .text "\" ", .place r.name.identifier,
    line ">"]

section

variable (r : Record)

theorem exists_paramsPieces :
  ∃ ps, paramsPieces r.toValue = .ok ps
  := by
  obtain ⟨rows, hrows⟩ := exists_forEach_pure (r.params.map Param.toValue) paramPieces
  apply exists_onlyIf
  apply exists_bind (a := r.params.map Param.toValue) rfl
  apply exists_bind hrows
  exact ⟨_, rfl⟩

theorem exists_returnsPieces :
  ∃ ps, returnsPieces r.toValue = .ok ps
  := by
  have hslot : Slot.ofValue r.toValue "returns"
      = .filled ((r.returns.map Returned.toValue).getD .null) := rfl
  rw [returnsPieces, hslot]
  cases r.returns with
  | none => exact ⟨[], rfl⟩
  | some returned => exact ⟨_, rfl⟩

theorem exists_examplesPieces :
  ∃ ps, examplesPieces r.toValue = .ok ps
  := by
  obtain ⟨rows, hrows⟩ := exists_forEach_pure (r.examples.items.map Example.toValue)
    (examplePieces r.toValue)
  have hsetup : (Slot.ofValue r.toValue "examples").part "setup"
      = .ok (.filled (.text r.examples.setup)) := rfl
  have hlist : (Slot.ofValue r.toValue "examples").part "list"
      = .ok (.filled (.list (r.examples.items.map Example.toValue))) := rfl
  apply exists_onlyIf
  apply exists_bind hsetup
  apply exists_bind hlist
  apply exists_bind rfl
  apply exists_bind hrows
  exact ⟨_, rfl⟩

theorem exists_benchmarkPieces (member : Value) (b : Benchmark) :
  ∃ ps, benchmarkPieces member b.toValue = .ok ps
  := by
  obtain ⟨rows, hrows⟩ := exists_forEach_pure (b.cases.map BenchmarkCase.toValue)
    (casePieces member)
  apply exists_bind (a := b.cases.map BenchmarkCase.toValue) rfl
  apply exists_bind hrows
  exact ⟨_, rfl⟩

theorem exists_benchmarksPieces :
  ∃ ps, benchmarksPieces r.toValue = .ok ps
  := by
  have hall : ∀ v ∈ r.benchmarks.items.map Benchmark.toValue,
      ∃ ps, benchmarkPieces r.toValue v = .ok ps := by
    intro v hv
    obtain ⟨b, -, rfl⟩ := List.mem_map.1 hv
    apply exists_benchmarkPieces
  obtain ⟨tables, htables, -⟩ := exists_forEach hall
  have hlist : (Slot.ofValue r.toValue "benchmarks").part "list"
      = .ok (.filled (.list (r.benchmarks.items.map Benchmark.toValue))) := rfl
  apply exists_onlyIf
  apply exists_bind hlist
  apply exists_bind rfl
  apply exists_bind htables
  exact ⟨_, rfl⟩

/-- There is an article of every function, which starts with the name of its place. -/
theorem exists_articlePieces :
  ∃ ps, articlePieces r.toValue = .ok (articleHead r ++ ps)
  := by
  obtain ⟨params, hparams⟩ := exists_paramsPieces r
  obtain ⟨returns, hreturns⟩ := exists_returnsPieces r
  obtain ⟨examples, hexamples⟩ := exists_examplesPieces r
  obtain ⟨benchmarks, hbenchmarks⟩ := exists_benchmarksPieces r
  rw [articlePieces, hparams, ok_bind, hreturns, ok_bind, hexamples, ok_bind, hbenchmarks, ok_bind]
  simp only [List.append_assoc]
  exact ⟨_, rfl⟩

end

/-! ### Sections -/

/-- The start of the section of a namespace. -/
def sectionHead (ns : Namespace) : List Piece :=
  [.text "    <section class=\"namespace\" ", .place (namespacePlace ns.toValue), line ">"]

/-- There is a section of every namespace, with an article of each function shown in it. -/
theorem exists_sectionPieces (ns : Namespace) :
  ∃ ps, sectionPieces ns.toValue = .ok (sectionHead ns ++ ps)
    ∧ ∀ e ∈ ns.allMembers, articleHead e.record <:+: ps
  := by
  have hall : ∀ v ∈ ns.allMembers.map (fun e => e.record.toValue),
      ∃ ps, articlePieces v = .ok ps := by
    intro v hv
    obtain ⟨e, -, rfl⟩ := List.mem_map.1 hv
    obtain ⟨ps, hps⟩ := exists_articlePieces e.record
    exact ⟨_, hps⟩
  obtain ⟨articles, harticles, hparts⟩ := exists_forEach hall
  have hitems : (Slot.ofValue ns.toValue "all_members").items
      = .ok (ns.allMembers.map fun e => e.record.toValue) := rfl
  use lineWith "      <h2>" (.ofValue ns.toValue "namespace") "</h2>" ++ articles
    ++ [line "    </section>"]
  constructor
  · rw [sectionPieces, hitems, ok_bind, harticles, ok_bind]
    simp only [List.append_assoc]
    rfl
  · intro e he
    obtain ⟨ps, hps⟩ := exists_articlePieces e.record
    have hinfix := hparts _ (List.mem_map_of_mem he) _ hps
    apply (List.prefix_append (articleHead e.record) ps).isInfix.trans
    apply hinfix.trans
    apply List.infix_append

/-- In the main part there is a section of every namespace and an article of every function shown
in one. -/
theorem exists_mainPieces {data : List (Key × Value)} {nss : List Namespace}
    (hd : Slot.ofData data "namespaces" = .filled (.list (nss.map Namespace.toValue))) :
  ∃ main, mainPieces data = .ok main
    ∧ ∀ ns ∈ nss, sectionHead ns <:+: main
      ∧ ∀ e ∈ ns.allMembers, articleHead e.record <:+: main
  := by
  have hall : ∀ v ∈ nss.map Namespace.toValue, ∃ ps, sectionPieces v = .ok ps := by
    intro v hv
    obtain ⟨ns, -, rfl⟩ := List.mem_map.1 hv
    obtain ⟨ps, hps, -⟩ := exists_sectionPieces ns
    exact ⟨_, hps⟩
  obtain ⟨sections, hsections, hparts⟩ := exists_forEach hall
  use [line "  <main>"] ++ sections ++ [line "  </main>"]
  constructor
  · rw [mainPieces, hd, Slot.items, ok_bind, hsections]
    rfl
  · intro ns hns
    obtain ⟨ps, hps, harticles⟩ := exists_sectionPieces ns
    have hinfix := (hparts _ (List.mem_map_of_mem hns) _ hps).trans
      (List.infix_append [line "  <main>"] sections [line "  </main>"])
    constructor
    · apply (List.prefix_append (sectionHead ns) ps).isInfix.trans hinfix
    · intro e he
      apply (harticles e he).trans
      apply (List.suffix_append (sectionHead ns) ps).isInfix.trans hinfix

end DocPages.Page

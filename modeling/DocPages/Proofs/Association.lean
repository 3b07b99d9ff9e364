import DocPages.Association
import DocPages.Proofs.Grouping
import DocPages.Proofs.Tree.Passage
import DocPages.Proofs.Tree.Planted

/-!
# Functions by line, and the comments before them

The index of a walk that comes to its end holds each function of the walk once, among those that
start on its line, in the order of the walk.  The first of them is passed before the others, so none
of them is above it.  A comment is matched with all functions on the line after it if it says
something, and otherwise it is passed over.
-/

namespace DocPages

namespace Tree

variable {t : Tree} {links : Links}

/-! ### Functions by line -/

/-- In the order of a walk, `f` is passed before the others of `fs`, and at that time none of them
is above it. -/
def Outermost (t : Tree) (trail : Walk.Trail) (f : Handle) (fs : List Handle) : Prop :=
  ∃ before p after, t.Passages [] t.body (before ++ p :: after)
    ∧ (before ++ p :: after).map Passage.place = trail.visits.map Walk.Visit.node
    ∧ p.place = f ∧ ∀ g ∈ fs, g ∉ before.map Passage.place ∧ g ∉ p.above

/-- What an index of the functions of a walk holds: for each line on which there are some, the
functions that start on it, in the order of the walk. -/
structure Indexes (t : Tree) (trail : Walk.Trail) (index : List (Int × List Handle)) : Prop where
  nodup_lines : (index.map Prod.fst).Nodup
  ne_nil : ∀ b ∈ index, b.2 ≠ []
  eq_filter : ∀ b ∈ index, b.2 = (t.functions trail).filter fun f => t.firstLine f == b.1
  existsUnique : ∀ f ∈ t.functions trail, ∃! b, b ∈ index ∧ f ∈ b.2
  perm : (index.flatMap Prod.snd).Perm (t.functions trail)
  outermost : ∀ line f fs, (line, f :: fs) ∈ index → t.Outermost trail f (f :: fs)
  not_below : t.Forest t.body → ∀ line f fs, (line, f :: fs) ∈ index →
    ∀ g ∈ f :: fs, ∀ k, ¬ t.Below g (k + 1) f

/-- The first function on a line is passed before the others. -/
theorem exists_of_mem_functionIndex {trail : Walk.Trail} {line : Int} {f : Handle}
    {fs : List Handle} (hb : (line, f :: fs) ∈ t.functionIndex trail) :
  ∃ before after, trail.visits.map Walk.Visit.node = before ++ f :: after
    ∧ ∀ g ∈ f :: fs, g ∉ before ∧ (g = f ∨ g ∈ after)
  := by
  have hfilter : f :: fs = _ := (mem_groupBy.1 hb).2
  rw [functions, List.filter_filter, eq_comm] at hfilter
  obtain ⟨before, after, horder, hbefore, -, -⟩ := List.filter_eq_cons_iff.1 hfilter
  use before, after, horder
  intro g hg
  rw [← hfilter, horder] at hg
  obtain ⟨hmem, hline⟩ := List.mem_filter.1 hg
  have hnot : g ∉ before := fun hm => hbefore g hm hline
  use hnot
  rcases List.mem_append.1 hmem with hm | hm
  · exact absurd hm hnot
  · apply List.mem_cons.1 hm

theorem outermost_of_preorder {trail : Walk.Trail} {line : Int} {f : Handle} {fs : List Handle}
    (hp : t.Preorder t.body (trail.visits.map Walk.Visit.node))
    (hb : (line, f :: fs) ∈ t.functionIndex trail) :
  t.Outermost trail f (f :: fs)
  := by
  obtain ⟨before, after, horder, hfirst⟩ := exists_of_mem_functionIndex hb
  obtain ⟨ps, hps, hplaces⟩ := hp.exists_passages []
  have hsplit := hplaces.trans horder
  obtain ⟨us, vs, rfl, rfl, hvs⟩ := List.map_eq_append_iff.1 hsplit
  obtain ⟨p, ws, rfl, rfl, -⟩ := List.map_eq_cons_iff.1 hvs
  use us, p, ws, hps, hplaces, rfl
  intro g hg
  have hnot := (hfirst g hg).1
  use hnot
  intro habove
  have hmem := hps.above_before rfl habove
  rw [List.append_nil] at hmem
  exact hnot hmem

/-- In a forest the first function on a line lies below none of the others. -/
theorem Forest.not_below_of_preorder (hf : t.Forest t.body) {trail : Walk.Trail} {line : Int}
    {f g : Handle} {fs : List Handle} {k : Nat}
    (hp : t.Preorder t.body (trail.visits.map Walk.Visit.node))
    (hb : (line, f :: fs) ∈ t.functionIndex trail) (hg : g ∈ f :: fs) :
  ¬ t.Below g (k + 1) f
  := by
  intro hbelow
  obtain ⟨before, after, horder, hfirst⟩ := exists_of_mem_functionIndex hb
  -- It would be visited again after the function it lies below.
  have hagain : f ∈ after := by
    rcases (hfirst g hg).2 with rfl | hm
    · apply hp.below_after horder hbelow
    · obtain ⟨us, vs, rfl⟩ := List.append_of_mem hm
      rw [← List.cons_append, ← List.append_assoc] at horder
      apply List.mem_append_right
      apply List.mem_cons_of_mem _ (hp.below_after horder hbelow)
  have hnodup := hf.nodup_preorder hp
  rw [horder] at hnodup
  exact (List.nodup_cons.1 (List.nodup_append.1 hnodup).2.1).1 hagain

/-- The functions of a walk that comes to its end, by line. -/
theorem indexes_of_preorder {trail : Walk.Trail}
    (hp : t.Preorder t.body (trail.visits.map Walk.Visit.node)) :
  t.Indexes trail (t.functionIndex trail)
  := by
  constructor
  · rw [functionIndex, map_fst_groupBy]
    apply nodup_keysOf
  · intro b hb
    obtain ⟨⟨f, hf, hline⟩, he⟩ := mem_groupBy.1 hb
    rw [he]
    apply List.ne_nil_of_mem (a := f)
    apply List.mem_filter.2
    exact ⟨hf, beq_iff_eq.2 hline⟩
  · intro b hb
    apply (mem_groupBy.1 hb).2
  · intro f hf
    apply existsUnique_group hf
  · apply flatMap_groupBy_perm
  · intro line f fs hb
    apply outermost_of_preorder hp hb
  · intro hf line f fs hb g hg k
    apply hf.not_below_of_preorder hp hb hg

end Tree

/-! ### Comments -/

/-- The comment says what is in `m`, starting with a description, and stands right before the
functions in `m`, which are all that the index has for the line. -/
structure Describes (index : List (Int × List Handle)) (c : Comment) (m : Match) : Prop where
  functions : (c.extent.last + 1, m.functions) ∈ index
  doclet : Doclet.ofComment c = .ok m.doclet
  described : m.doclet.description ≠ ""

/-- `Matches index cs ms`: of the comments `cs`, those that describe something are matched as in
`ms`, one after the other, and the others are passed over. -/
inductive Matches (index : List (Int × List Handle)) : List Comment → List Match → Prop where
  | nil :
      Matches index [] []
  | matched {c : Comment} {m : Match} {cs : List Comment} {ms : List Match} :
      Describes index c m → Matches index cs ms → Matches index (c :: cs) (m :: ms)
  | passedOver {c : Comment} {cs : List Comment} {ms : List Match} :
      (∀ m, ¬ Describes index c m) → Matches index cs ms → Matches index (c :: cs) ms

/-- A comment is matched exactly if there are functions on the line after it and it can be read and
has a description. -/
theorem associateOne_eq_some_iff {index : List (Int × List Handle)} {c : Comment} {m : Match} :
  (associateOne index c).2 = some m
    ↔ index.lookup (c.extent.last + 1) = some m.functions ∧ Doclet.ofComment c = .ok m.doclet
      ∧ m.doclet.description ≠ ""
  := by
  rw [associateOne]
  cases index.lookup (c.extent.last + 1) with
  | none => simp
  | some functions =>
    dsimp only
    cases Doclet.ofComment c with
    | error e => simp
    | ok doc =>
      dsimp only
      split
      · rename_i hempty
        rw [String.isEmpty_iff] at hempty
        simp only [reduceCtorEq, Option.some.injEq, Except.ok.injEq, false_iff]
        rintro ⟨-, rfl, hne⟩
        exact hne hempty
      · rename_i hdescribed
        rw [String.isEmpty_iff] at hdescribed
        simp only [Option.some.injEq, Except.ok.injEq]
        constructor
        · rintro rfl
          exact ⟨rfl, rfl, hdescribed⟩
        · rintro ⟨rfl, rfl, -⟩
          rfl

variable {t : Tree} {trail : Walk.Trail}

theorem describes_iff {c : Comment} {m : Match} :
  Describes (t.functionIndex trail) c m ↔ (associateOne (t.functionIndex trail) c).2 = some m
  := by
  rw [associateOne_eq_some_iff, Tree.functionIndex, lookup_groupBy_eq_some_iff]
  constructor
  · rintro ⟨hfunctions, hdoc, hne⟩
    exact ⟨hfunctions, hdoc, hne⟩
  · rintro ⟨hfunctions, hdoc, hne⟩
    exact ⟨hfunctions, hdoc, hne⟩

theorem forall_not_describes_iff {c : Comment} :
  (∀ m, ¬ Describes (t.functionIndex trail) c m)
    ↔ (associateOne (t.functionIndex trail) c).2 = none
  := by
  rw [Option.eq_none_iff_forall_ne_some]
  simp only [ne_eq, describes_iff]

/-- The matches of comments are those that `associate` finds, and no others. -/
theorem matches_iff {cs : List Comment} {ms : List Match} :
  Matches (t.functionIndex trail) cs ms ↔ ms = (associate (t.functionIndex trail) cs).2
  := by
  constructor
  · intro h
    induction h with
    | nil => rfl
    | matched hd _ ih =>
      simp only [associate, List.filterMap_cons, describes_iff.1 hd, ih]
    | passedOver hd _ ih =>
      simp only [associate, List.filterMap_cons, forall_not_describes_iff.1 hd, ih]
  · rintro rfl
    induction cs with
    | nil => apply Matches.nil
    | cons c cs ih =>
      cases hm : (associateOne (t.functionIndex trail) c).2 with
      | none =>
        simp only [associate, List.filterMap_cons, hm]
        apply Matches.passedOver (forall_not_describes_iff.2 hm) ih
      | some m =>
        simp only [associate, List.filterMap_cons, hm]
        apply Matches.matched (describes_iff.2 hm) ih

/-- A walk from the body that comes to its end has all its functions in the index, and comments are
matched with the functions on the line after them. -/
theorem Tree.indexes_functionIndex (t : Tree) (links : Links)
    (he : (t.walkBody links).ending = .finished) :
  t.Indexes (t.walkBody links) (t.functionIndex (t.walkBody links))
    ∧ ∀ cs ms, Matches (t.functionIndex (t.walkBody links)) cs ms
      ↔ ms = (associate (t.functionIndex (t.walkBody links)) cs).2
  := by
  have hpre := Walk.preorder_of_finished he
  rw [Walk.map_node_front_start] at hpre
  constructor
  · apply indexes_of_preorder hpre
  · intro cs ms
    apply matches_iff

/-- The tree of `var f = function() { var g = function() {}; };` on one line and `function h() {}`
on another. -/
def nestedFunctions : Tree where
  nodes :=
    #[⟨.identifier, ⟨1, 1⟩, [("name", .text "f")]⟩,
      ⟨.identifier, ⟨1, 1⟩, [("name", .text "g")]⟩,
      ⟨.blockStatement, ⟨1, 1⟩, [("body", .nodes [])]⟩,
      ⟨.functionExpression, ⟨1, 1⟩, [("id", .nothing), ("params", .nodes []), ("body", .node 2)]⟩,
      ⟨.variableDeclarator, ⟨1, 1⟩, [("id", .node 1), ("init", .node 3)]⟩,
      ⟨.variableDeclaration, ⟨1, 1⟩, [("declarations", .nodes [4])]⟩,
      ⟨.blockStatement, ⟨1, 1⟩, [("body", .nodes [5])]⟩,
      ⟨.functionExpression, ⟨1, 1⟩, [("id", .nothing), ("params", .nodes []), ("body", .node 6)]⟩,
      ⟨.variableDeclarator, ⟨1, 1⟩, [("id", .node 0), ("init", .node 7)]⟩,
      ⟨.variableDeclaration, ⟨1, 1⟩, [("declarations", .nodes [8])]⟩,
      ⟨.identifier, ⟨3, 3⟩, [("name", .text "h")]⟩,
      ⟨.blockStatement, ⟨3, 3⟩, [("body", .nodes [])]⟩,
      ⟨.functionDeclaration, ⟨3, 3⟩, [("id", .node 10), ("params", .nodes []), ("body", .node 11)]⟩]
  body := [9, 12]

theorem finished_nestedFunctions :
  (nestedFunctions.walkBody Links.none).ending = .finished
  := by
  have hb : nestedFunctions.Branching := ⟨by decide, by decide⟩
  apply hb.forest.finished_of_closed Links.none [9, 8, 7, 6, 5, 4, 3, 2, 12, 11]
  · decide
  · decide

theorem indexes_functionIndex_nestedFunctions :
  (nestedFunctions.walkBody Links.none).ending = .finished
    ∧ nestedFunctions.functionIndex (nestedFunctions.walkBody Links.none)
      = [(1, [7, 3]), (3, [12])]
    ∧ nestedFunctions.Indexes (nestedFunctions.walkBody Links.none)
      (nestedFunctions.functionIndex (nestedFunctions.walkBody Links.none))
    ∧ ∀ cs ms, Matches (nestedFunctions.functionIndex (nestedFunctions.walkBody Links.none)) cs ms
      ↔ ms = (associate (nestedFunctions.functionIndex (nestedFunctions.walkBody Links.none)) cs).2
  := by
  use finished_nestedFunctions
  constructor
  · decide +kernel
  · exact Tree.indexes_functionIndex nestedFunctions Links.none finished_nestedFunctions

end DocPages

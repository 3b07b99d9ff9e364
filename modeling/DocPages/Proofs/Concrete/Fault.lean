import DocPages.Concrete.Tree
import DocPages.Proofs.Concrete.Position

/-!
# Errors in the source

If there is an error in the source, the first node of the concrete tree that is an error or missing
is blamed, or the root if there is none.  What is said of the error names the row of that node as
it is counted in the tree, from zero, so it names the line before the one in which the node starts.
-/

namespace DocPages.Concrete

/-- Does the node stand for an error or for something that is missing? -/
def Label.isFault (l : Label) : Bool :=
  l.kind = "ERROR" || l.missing

/-- The node that is blamed for an error in the source: the first fault in the order of the
document, or the root if there is no fault. -/
inductive Blamed (root : Concrete) (l : Label) : Prop where
  | fault {p : List Nat} : IsFirst Label.isFault root p l → Blamed root l
  | root : (∀ q m, root.labelAt? q = some m → m.isFault = false) → l = root.label → Blamed root l

theorem firstFaultIn?_eq_head? {cs : List Concrete}
    (h : ∀ c ∈ cs, firstFault? c = (outermost Label.isFault c).head?.map Prod.snd) (i : Nat) :
  firstFaultIn? cs = (outermostIn Label.isFault i cs).head?.map Prod.snd
  := by
  induction cs generalizing i with
  | nil => rfl
  | cons c cs ih =>
    rw [List.forall_mem_cons] at h
    rw [firstFaultIn?, outermostIn, h.1, ih h.2 (i + 1), List.head?_append, List.head?_map]
    cases (outermost Label.isFault c).head? with
    | none => rfl
    | some n => rfl

/-- The first fault that is found is the first of the outermost ones. -/
theorem firstFault?_eq_head? (c : Concrete) :
  firstFault? c = (outermost Label.isFault c).head?.map Prod.snd
  := by
  induction c using byChildren with
  | node l cs ih =>
    have hfault : (l.kind = "ERROR" || l.missing) = l.isFault := rfl
    rw [firstFault?, outermost, hfault]
    split
    · rfl
    · apply firstFaultIn?_eq_head? ih

/-- The row of a faulty tree is that of the node that is blamed. -/
theorem exists_blamed (root : Concrete) :
  ∃ l, Blamed root l ∧ root.faultRow = l.rows.first
  := by
  rw [faultRow, firstFault?_eq_head?]
  cases hn : (outermost Label.isFault root).head? with
  | none =>
    have hnone := outermost_eq_nil_iff.1 (List.head?_eq_none_iff.1 hn)
    exact ⟨root.label, .root hnone rfl, rfl⟩
  | some n => exact ⟨n.2, .fault (isFirst_of_head? hn), rfl⟩

/-- One node is blamed. -/
theorem Blamed.unique {root : Concrete} {l m : Label} (hl : Blamed root l) (hm : Blamed root m) :
  l = m
  := by
  cases hl with
  | fault hl =>
    cases hm with
    | fault hm =>
      have hle := hl.le _ _ hm.label hm.passes
      obtain rfl := hle.antisymm (hm.le _ _ hl.label hl.passes)
      exact Option.some.inj (hl.label.symm.trans hm.label)
    | root hnone _ =>
      exact absurd ((hnone _ _ hl.label).symm.trans hl.passes) Bool.false_ne_true
  | root hnone hl =>
    cases hm with
    | fault hm => exact absurd ((hnone _ _ hm.label).symm.trans hm.passes) Bool.false_ne_true
    | root _ hm => rw [hl, hm]

/-- There is no syntax tree if there is an error in the source.  One node is blamed, and its row is
named as it is, while the line of a node of unknown kind in that row is named as the next number. -/
theorem toTree_names_row (source : String) (root : Concrete) :
  (∃! l, Blamed root l)
    ∧ ∀ l, Blamed root l →
      toTree source true root = .error (.fault l.rows.first)
        ∧ (SourceError.fault l.rows.first).message
          = "Syntax error near line " ++ toString l.rows.first
        ∧ ∀ n : Node, n.extent = l.rows →
          n.unknownMessage
            = "Unknown node type \"" ++ n.kind.name ++ "\" at line " ++ toString (l.rows.first + 1)
  := by
  obtain ⟨l₀, hl₀, hrow⟩ := exists_blamed root
  constructor
  · exact ⟨l₀, hl₀, fun l hl => hl.unique hl₀⟩
  · intro l hl
    obtain rfl := hl.unique hl₀
    refine ⟨?_, ?_, ?_⟩
    · rw [toTree, if_pos rfl, hrow]
    · unfold SourceError.message
      rfl
    · intro n hn
      unfold Node.unknownMessage
      rw [hn]

/-- The concrete tree of a statement, a line end and an opening parenthesis. -/
def unclosedTree : Concrete :=
  let statement : Concrete :=
    .node { kind := "empty_statement", rows := ⟨0, 0⟩, bytes := (0, 1) } []
  let fault : Concrete := .node { kind := "ERROR", rows := ⟨1, 1⟩, bytes := (2, 3) } []
  .node { kind := "program", rows := ⟨0, 1⟩, bytes := (0, 3) } [statement, fault]

theorem blamed_unclosedTree :
  Blamed unclosedTree { kind := "ERROR", rows := ⟨1, 1⟩, bytes := (2, 3) }
  := Blamed.fault (isFirst_of_head? (p := [1]) rfl)

theorem toTree_names_row_unclosedTree :
  Blamed unclosedTree { kind := "ERROR", rows := ⟨1, 1⟩, bytes := (2, 3) }
    ∧ toTree ";\n(" true unclosedTree = .error (.fault 1)
  := by
  obtain ⟨-, hall⟩ := toTree_names_row ";\n(" unclosedTree
  exact ⟨blamed_unclosedTree, (hall _ blamed_unclosedTree).1⟩

/-- The fault is in the second line, and the first one is named. -/
theorem message_unclosedTree_ne :
  Blamed unclosedTree { kind := "ERROR", rows := ⟨1, 1⟩, bytes := (2, 3) }
    ∧ ∃ e, toTree ";\n(" true unclosedTree = .error e
      ∧ e.message = "Syntax error near line 1" ∧ e.message ≠ "Syntax error near line 2"
  := ⟨blamed_unclosedTree, .fault 1, rfl, by decide, by decide⟩

end DocPages.Concrete

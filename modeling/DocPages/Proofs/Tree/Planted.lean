import DocPages.Proofs.Tree.Trail

/-!
# Planted trees

A tree is branching if none of its places is referred to twice, and planted if each is referred to
once, from its body or from a place further on.  A walk from the body of a planted tree links places
to places further on, so no one can follow the links for ever.  If the fields hold what a walk wants
of them, it comes to no other fault than a node of unknown kind.
-/

namespace DocPages

/-! ### Faults by kind -/

/-- The fields in which a walk looks for one node. -/
def NodeKind.singleKeys : NodeKind → List String
  | functionDeclaration | functionExpression => ["body"]
  | expressionStatement => ["expression"]
  | assignmentExpression => ["right"]
  | callExpression => ["callee"]
  | property => ["key", "value"]
  | variableDeclarator => ["init"]
  | _ => []

/-- The fields in which a walk looks for several nodes. -/
def NodeKind.manyKeys : NodeKind → List String
  | blockStatement => ["body"]
  | objectExpression => ["properties"]
  | variableDeclaration => ["declarations"]
  | _ => []

namespace FieldValue

/-- A value that is a node or nothing. -/
def IsSingle (v : FieldValue) : Prop :=
  v = nothing ∨ ∃ h, v = node h

/-- A value that is a list of nodes or nothing. -/
def IsMany (v : FieldValue) : Prop :=
  v = nothing ∨ ∃ hs, v = nodes hs

end FieldValue

namespace Tree

namespace Children

/-- The children of a place have no other fault than the unknown kind of the place. -/
def WellPlaced (h : Handle) (c : Children) : Prop :=
  c.fault = none ∨ c.fault = some (.unknownKind h)

theorem fault_nodes (hs : List Handle) :
  (ofItems (hs.map .node)).fault = none
  := by
  induction hs with
  | nil => rfl
  | cons h hs ih => apply ih

theorem single_eq {n : Node} {key : String} (h : (n.field key).IsSingle) :
  ∃ hs : List Handle, single n key = hs.map .node
  := by
  rcases h with h | ⟨x, h⟩
  · exact ⟨[], by rw [single, h]; rfl⟩
  · exact ⟨[x], by rw [single, h]; rfl⟩

theorem fault_single_eq_none {n : Node} {key : String} (h : (n.field key).IsSingle) :
  (ofItems (single n key)).fault = none
  := by
  obtain ⟨hs, he⟩ := single_eq h
  rw [he]
  apply fault_nodes

theorem fault_pair_eq_none {n : Node} {key other : String} (h : (n.field key).IsSingle)
    (h' : (n.field other).IsSingle) :
  (ofItems (single n key ++ single n other)).fault = none
  := by
  obtain ⟨hs, he⟩ := single_eq h
  obtain ⟨hs', he'⟩ := single_eq h'
  rw [he, he', ← List.map_append]
  apply fault_nodes

theorem fault_many_eq_none {n : Node} {key : String} (h : (n.field key).IsMany) :
  (many n key).fault = none
  := by
  rw [many]
  rcases h with h | ⟨hs, h⟩
  · rw [h]
  · rw [h]
    apply fault_nodes

theorem fault_callee_eq_none {t : Tree} {n : Node} (h : (n.field "callee").IsSingle) :
  (callee t n).fault = none
  := by
  rw [callee]
  rcases h with h | ⟨x, h⟩
  · rw [h]
  · rw [h]
    dsimp only
    split <;> rfl

end Children

/-- A node whose fields hold what a walk wants of them has no other fault than an unknown kind. -/
theorem wellPlaced_childrenOf {t : Tree} {h : Handle} {n : Node}
    (hs : ∀ key ∈ n.kind.singleKeys, (n.field key).IsSingle)
    (hm : ∀ key ∈ n.kind.manyKeys, (n.field key).IsMany) :
  (t.childrenOf h n).WellPlaced h
  := by
  unfold childrenOf
  cases hk : n.kind <;> rw [hk] at hs hm
  case functionDeclaration | functionExpression | expressionStatement | assignmentExpression
      | variableDeclarator =>
    left
    apply Children.fault_single_eq_none
    apply hs _ List.mem_cons_self
  case blockStatement | objectExpression | variableDeclaration =>
    left
    apply Children.fault_many_eq_none
    apply hm _ List.mem_cons_self
  case callExpression =>
    left
    apply Children.fault_callee_eq_none
    apply hs _ List.mem_cons_self
  case property =>
    left
    apply Children.fault_pair_eq_none
    · apply hs _ List.mem_cons_self
    · apply hs _ (List.mem_cons_of_mem _ List.mem_cons_self)
  case identifier | emptyStatement | returnStatement =>
    left
    rfl
  case memberExpression | literal | other =>
    right
    rfl

end Tree

/-! ### Links that lead on -/

namespace Links

/-- Where so many links lead from a place, one after the other. -/
def climb (links : Links) : Nat → Handle → Option Handle
  | 0, h => some h
  | k + 1, h => (links h).bind (climb links k)

/-- Every link leads to a place further on in the tree. -/
def Ascend (t : Tree) (links : Links) : Prop :=
  ∀ h p : Nat, links h = some p → h < p ∧ p < t.size

variable {t : Tree} {links : Links}

theorem ascend_none (t : Tree) :
  none.Ascend t
  := by
  intro h p he
  cases he

theorem Ascend.settle (ha : links.Ascend t) (hlt : ∀ p, ∀ h ∈ (t.children p).nodes, h < p)
    (ps : List Handle) :
  (links.settle t ps).Ascend t
  := by
  induction ps generalizing links with
  | nil => apply ha
  | cons p ps ih =>
    apply ih
    intro h q he
    rw [setAll] at he
    split at he
    · rename_i hc
      cases he
      exact ⟨hlt p h hc, Tree.lt_size_of_mem (Tree.mem_referencesAt hc)⟩
    · apply ha h q he

/-- Links that lead on can be followed only so often as there are places further on. -/
theorem Ascend.climb_eq_none (ha : links.Ascend t) {k : Nat} {h : Handle} (hk : t.size ≤ h + k) :
  links.climb (k + 1) h = Option.none
  := by
  induction k generalizing h with
  | zero =>
    cases he : links h with
    | none => rw [climb, he, Option.bind_none]
    | some p =>
      obtain ⟨hlt, hsize⟩ := ha h p he
      omega
  | succ k ih =>
    cases he : links h with
    | none => rw [climb, he, Option.bind_none]
    | some p =>
      obtain ⟨hlt, -⟩ := ha h p he
      rw [climb, he, Option.bind_some]
      apply ih
      omega

end Links

/-- A walk that never stops and comes to no other fault than an unknown kind goes on to its end or
to a node of unknown kind. -/
theorem Walk.Cut.ending_of_wellPlaced {t : Tree} {order vs : List Handle} {e : Walk.Ending}
    (hc : Walk.Cut t (fun _ => false) order vs e)
    (hf : ∀ h ∈ order, (t.children h).WellPlaced h) :
  e = .finished ∨ ∃ u, e = .failed (.unknownKind u)
  := by
  induction hc with
  | finished =>
    left
    rfl
  | stopped hs => cases hs
  | unknown _ _ _ =>
    right
    exact ⟨_, rfl⟩
  | misplaced _ hfault hu =>
    rcases hf _ List.mem_cons_self with he | he <;> rw [hfault] at he <;> cases he
    exact absurd rfl (hu _)
  | visited _ _ _ ih =>
    apply ih
    intro h hm
    apply hf h (List.mem_cons_of_mem _ hm)

/-- A walk that never stops comes to its end exactly if no place has a fault. -/
theorem Walk.Cut.eq_finished_iff {t : Tree} {order vs : List Handle} {e : Walk.Ending}
    (hc : Walk.Cut t (fun _ => false) order vs e) :
  e = .finished ↔ ∀ h ∈ order, (t.children h).fault = none
  := by
  induction hc with
  | finished => simp
  | stopped hs => cases hs
  | unknown _ hn hk => simp [Walk.fault_of_not_walked hn hk]
  | misplaced _ hfault _ => simp [hfault]
  | visited _ hfault _ ih => simp [hfault, ih]

/-- A walk that comes to its end has visited everything. -/
theorem Walk.Cut.eq_of_finished {t : Tree} {stops : Handle → Bool} {order vs : List Handle}
    {e : Walk.Ending} (hc : Walk.Cut t stops order vs e) (he : e = .finished) :
  vs = order
  := by
  induction hc with
  | finished => rfl
  | stopped _ | unknown _ _ _ | misplaced _ _ _ => cases he
  | visited _ _ _ ih => rw [ih he]

/-! ### Planted trees -/

namespace Tree

/-- All places that are referred to are in the tree, and none is referred to twice, counting the
body. -/
structure Branching (t : Tree) : Prop where
  lt_size : ∀ h ∈ t.body ++ t.references, h < t.size
  nodup : (t.body ++ t.references).Nodup

/-- Each place of the tree is referred to once, from the body or from a place further on. -/
structure Planted (t : Tree) : Prop where
  perm : (t.body ++ t.references).Perm (List.range t.size)
  lt : ∀ h, ∀ r ∈ t.referencesAt h, r < h

variable {t : Tree} {links : Links}

theorem planted_of_lt_size (hperm : (t.body ++ t.references).Perm (List.range t.size))
    (hlt : ∀ h < t.size, ∀ r ∈ t.referencesAt h, r < h) :
  t.Planted
  := by
  use hperm
  intro h r hr
  apply hlt h (lt_size_of_mem hr) r hr

theorem Planted.branching (hp : t.Planted) :
  t.Branching
  := by
  constructor
  · intro h hm
    apply List.mem_range.1 (hp.perm.subset hm)
  · apply hp.perm.nodup_iff.2 List.nodup_range

theorem Branching.forest (hb : t.Branching) :
  t.Forest t.body
  := forest_of_nodup hb.lt_size hb.nodup

theorem Planted.forest (hp : t.Planted) :
  t.Forest t.body
  := hp.branching.forest

/-- A walk from the body comes to its end exactly if no place that it reaches has a fault. -/
theorem Forest.ending_eq_finished_iff (hf : t.Forest t.body) (links : Links) :
  (t.walkBody links).ending = .finished
    ↔ ∀ h, t.Reaches t.body h → (t.children h).fault = none
  := by
  obtain ⟨order, hpre⟩ := hf.exists_preorder
  obtain ⟨vs, e, hcut, heq⟩ := hf.walk_eq links (fun _ => false) hpre
  rw [walkBody, heq, hcut.eq_finished_iff]
  simp only [hpre.mem_iff]

/-- A walk comes to its end if the body and the children of some places are among these, and none
of them has a fault. -/
theorem Forest.finished_of_closed (hf : t.Forest t.body) (links : Links) (hs : List Handle)
    (hbody : t.body ⊆ hs)
    (hclosed : ∀ p ∈ hs, (t.children p).nodes ⊆ hs ∧ (t.children p).fault = none) :
  (t.walkBody links).ending = .finished
  := by
  apply (hf.ending_eq_finished_iff links).2
  intro h hr
  have hmem : h ∈ hs := by
    induction hr with
    | start hm => apply hbody hm
    | child _ hc ih => apply (hclosed _ ih).1 hc
  apply (hclosed h hmem).2

/-- A walk from the body that comes to its end links every child to its parent. -/
theorem Forest.links_eq (hf : t.Forest t.body) (he : (t.walkBody links).ending = .finished)
    {p h : Handle} (hr : t.Reaches t.body p) (hc : h ∈ (t.children p).nodes) :
  (t.walkBody links).links h = some p
  := by
  obtain ⟨order, hpre⟩ := hf.exists_preorder
  obtain ⟨vs, e, hcut, heq⟩ := hf.walk_eq links (fun _ => false) hpre
  rw [walkBody, heq] at he ⊢
  have hvs := hcut.eq_of_finished he
  apply hf.settle_child
  · intro q hq
    rw [hvs] at hq
    apply hpre.mem_iff.1 hq
  · rw [hvs]
    apply hpre.mem_iff.2 hr
  · apply hc

/-- A walk from the body ends, with every place visited once, unless it comes to a node of unknown
kind.  It links places to places further on, so no one can follow the links for ever. -/
structure Climbs (t : Tree) : Prop where
  ending : (t.walkBody Links.none).ending = .finished
    ∨ ∃ u, (t.walkBody Links.none).ending = .failed (.unknownKind u)
  nodup : ((t.walkBody Links.none).visits.map Walk.Visit.node).Nodup
  lt : ∀ h p, (t.walkBody Links.none).links h = some p → h < p
  climb : ∀ h, (t.walkBody Links.none).links.climb (t.size + 1) h = none

theorem Planted.climbs (hp : t.Planted)
    (hf : ∀ h, t.Reaches t.body h → (t.children h).WellPlaced h) :
  t.Climbs
  := by
  obtain ⟨order, hpre⟩ := hp.forest.exists_preorder
  obtain ⟨vs, e, hcut, heq⟩ := hp.forest.walk_eq Links.none (fun _ => false) hpre
  have hchild : ∀ p, ∀ h ∈ (t.children p).nodes, h < p :=
    fun p h hc => hp.lt p h (mem_referencesAt hc)
  have ha := (Links.ascend_none t).settle hchild vs
  constructor
  · rw [walkBody, heq]
    apply hcut.ending_of_wellPlaced
    intro h hm
    apply hf h (hpre.mem_iff.1 hm)
  · rw [walkBody, heq, Walk.map_node_visitsTo]
    apply List.Nodup.sublist hcut.initial.sublist (hp.forest.nodup_preorder hpre)
  · rw [walkBody, heq]
    intro h p he
    apply (ha h p he).1
  · rw [walkBody, heq]
    intro h
    apply ha.climb_eq_none (Nat.le_add_left _ _)

end Tree

end DocPages

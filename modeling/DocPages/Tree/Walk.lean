import DocPages.Tree.Basic

/-!
# Walking a tree

A `Walk` visits the nodes of a tree, each before its children and children in order.  It is
lazy: `Walk.next` goes to the next node, and only then looks at the children of the node
before.  The link of a child to its parent is set when the children of the parent are looked
at.  `Tree.walk` takes a walk to its end.  It ends early at a node of unknown kind and at a
field that does not hold what it should.  A walk that gets deeper than a tree has nodes has come
back to a node above, and never ends.
-/

namespace DocPages

/-- The parent of each node, as walks have set them. -/
abbrev Links := Handle → Option Handle

namespace Links

/-- No node has a parent yet. -/
def none : Links := fun _ => Option.none

/-- The links with the parent of each of `children` set. -/
def setAll (links : Links) (children : List Handle) (parent : Handle) : Links :=
  fun h => if h ∈ children then some parent else links h

end Links

/-- The sum of numbers. -/
def total : List Nat → Nat
  | [] => 0
  | n :: ns => n + total ns

theorem total_append (ms ns : List Nat) :
  total (ms ++ ns) = total ms + total ns
  := by
  induction ms with
  | nil => exact (Nat.zero_add _).symm
  | cons m ms ih => rw [List.cons_append, total, total, ih, Nat.add_assoc]

theorem le_total_of_mem {n : Nat} {ns : List Nat} (h : n ∈ ns) :
  n ≤ total ns
  := by
  induction ns with
  | nil => cases h
  | cons m ms ih =>
    rw [total]
    cases h with
    | head => exact Nat.le_add_right _ _
    | tail _ h => exact Nat.le_trans (ih h) (Nat.le_add_left _ _)

namespace Tree

/-- What keeps a walk from going on: a node of unknown kind, something else where a node should
be, or a node where a list should be. -/
inductive Fault where
  | unknownKind (h : Handle)
  | noNode
  | noList
  deriving DecidableEq, Inhabited

/-- The children of a node up to the first fault, if there is one. -/
structure Children where
  nodes : List Handle := []
  fault : Option Fault := none
  deriving DecidableEq, Inhabited

namespace Children

/-- Children from what stands where nodes should. -/
def ofItems : List FieldValue → Children
  | [] => {}
  | .node h :: items =>
    let rest := ofItems items
    { rest with nodes := h :: rest.nodes }
  | _ :: _ => { fault := some .noNode }

/-- The child in a field that holds one node or nothing. -/
def single (n : Node) (key : String) : List FieldValue :=
  match n.field key with
  | .nothing => []
  | v => [v]

/-- The children in a field that holds a list.  A text is the list of its characters. -/
def many (n : Node) (key : String) : Children :=
  match n.field key with
  | .nothing => {}
  | .node _ => { fault := some .noList }
  | .list items => ofItems items
  | .text s => ofItems (s.toList.map fun c => .text (String.singleton c))

/-- The function that is called, if it is written where it is called. -/
def callee (t : Tree) (n : Node) : Children :=
  match n.field "callee" with
  | .nothing => {}
  | .node h =>
    if (t.node? h).any fun m => m.kind == .functionExpression then { nodes := [h] } else {}
  | .list _ | .text _ => { fault := some .noNode }

end Children

/-- The children a walk goes to from the node at a place.  Nothing is said of what a node of
unknown kind holds, so it may hide a function. -/
def childrenOf (t : Tree) (h : Handle) (n : Node) : Children :=
  match n.kind with
  | .functionDeclaration | .functionExpression => .ofItems (Children.single n "body")
  | .blockStatement => .many n "body"
  | .expressionStatement => .ofItems (Children.single n "expression")
  | .assignmentExpression => .ofItems (Children.single n "right")
  | .callExpression => .callee t n
  | .objectExpression => .many n "properties"
  | .property => .ofItems (Children.single n "key" ++ Children.single n "value")
  | .variableDeclaration => .many n "declarations"
  | .variableDeclarator => .ofItems (Children.single n "init")
  | .identifier | .emptyStatement | .returnStatement => {}
  | .memberExpression | .literal | .other _ => { fault := some (.unknownKind h) }

/-- The children a walk goes to from a place. -/
def children (t : Tree) (h : Handle) : Children :=
  match t.node? h with
  | some n => t.childrenOf h n
  | none => {}

/-- At least the number of children of any node. -/
def width (t : Tree) : Nat :=
  total ((List.range t.size).map fun h => (t.children h).nodes.length)

end Tree

/-- A node that a walk is still to visit, and how far below the roots it lies. -/
structure Waypoint where
  node : Handle
  depth : Nat
  deriving DecidableEq, Inhabited

/-- A walk: the node visited last, whose children have not been looked at, and the nodes still
to visit. -/
structure Walk where
  last : Option Waypoint := none
  pending : List Waypoint
  deriving Inhabited

/-- What the next step of a walk comes to. -/
inductive Walk.Step where
  | visit (point : Waypoint) (walk : Walk) (links : Links)
  | stopped (h : Handle) (links : Links)
  | failed (f : Tree.Fault) (links : Links)
  | finished (links : Links)

namespace Walk

/-- The walk from some roots. -/
def start (roots : List Handle) : Walk :=
  { pending := roots.map fun h => ⟨h, 0⟩ }

/-- What there is to visit once the last node is done with: its children, which are linked to
it, and then what there was before.  If there is a fault among the children, those before it are
linked all the same. -/
def descend (t : Tree) (links : Links) (w : Walk) :
    Links × Except Tree.Fault (List Waypoint) :=
  match w.last with
  | none => (links, .ok w.pending)
  | some s =>
    let children := t.children s.node
    (links.setAll children.nodes s.node,
      match children.fault with
      | some f => .error f
      | none => .ok (children.nodes.map (fun h => ⟨h, s.depth + 1⟩) ++ w.pending))

/-- The next step of a walk that stops at the first node for which `stops` holds. -/
def next (t : Tree) (stops : Handle → Bool) (links : Links) (w : Walk) : Step :=
  match w.descend t links with
  | (links, .error f) => .failed f links
  | (links, .ok []) => .finished links
  | (links, .ok (s :: rest)) =>
    if stops s.node then .stopped s.node links
    else .visit s { last := some s, pending := rest } links

/-! ### Why a walk ends -/

/-- More than the number of steps that a walk can take from a node on, if it gets less deep
than there are nodes. -/
private def waypointWeight (t : Tree) (s : Waypoint) : Nat :=
  Nat.pow (t.width + 1) (t.size - s.depth)

/-- More than the number of steps that a walk can take. -/
private def weight (t : Tree) (w : Walk) : Nat :=
  (w.last.elim 0 fun s => waypointWeight t s - 1) + total (w.pending.map (waypointWeight t))

private theorem waypointWeight_pos (t : Tree) (s : Waypoint) :
  0 < waypointWeight t s
  := Nat.pow_pos (Nat.succ_pos _)

private theorem length_children_le_width (t : Tree) (h : Handle) :
  (t.children h).nodes.length ≤ t.width
  := by
  by_cases hh : h < t.size
  · exact le_total_of_mem (List.mem_map.2 ⟨h, List.mem_range.2 hh, rfl⟩)
  · have hn : t.node? h = none := by
      unfold Tree.node?
      exact Array.getElem?_eq_none (Nat.le_of_not_lt hh)
    unfold Tree.children
    rw [hn]
    exact Nat.zero_le _

private theorem total_waypointWeight_children (t : Tree) (hs : List Handle) (d : Nat) :
  total ((hs.map fun h => (⟨h, d⟩ : Waypoint)).map (waypointWeight t))
    = hs.length * Nat.pow (t.width + 1) (t.size - d)
  := by
  induction hs with
  | nil => exact (Nat.zero_mul _).symm
  | cons h hs ih =>
    rw [List.map_cons, List.map_cons, total, ih, List.length_cons, waypointWeight, Nat.add_mul,
      Nat.one_mul, Nat.add_comm]

private theorem weight_descend {t : Tree} {links links' : Links} {w : Walk} {ss : List Waypoint}
    (hd : ∀ s, w.last = some s → s.depth < t.size)
    (e : w.descend t links = (links', .ok ss)) :
  total (ss.map (waypointWeight t)) ≤ weight t w
  := by
  unfold descend at e
  split at e
  · cases e
    exact Nat.le_add_left _ _
  · rename_i s hs
    simp only at e
    split at e
    · cases e
    · cases e
      have hlen := length_children_le_width t s.node
      have hdep := hd s hs
      let cs := (t.children s.node).nodes
      let below := Nat.pow (t.width + 1) (t.size - (s.depth + 1))
      have hpow : waypointWeight t s = below * t.width + below := by
        have hsub : t.size - s.depth = t.size - (s.depth + 1) + 1 := by omega
        rw [waypointWeight, hsub]
        rfl
      have hmul : cs.length * below ≤ below * t.width := by
        rw [Nat.mul_comm below]
        exact Nat.mul_le_mul_right below hlen
      have hpos : 0 < below := Nat.pow_pos (Nat.succ_pos _)
      have hsum : total ((cs.map fun h => (⟨h, s.depth + 1⟩ : Waypoint)).map (waypointWeight t))
          = cs.length * below := total_waypointWeight_children t cs (s.depth + 1)
      rw [List.map_append, total_append, hsum, weight, hs, Option.elim_some, hpow]
      omega

private theorem weight_next {t : Tree} {stops : Handle → Bool} {links links' : Links}
    {w w' : Walk} {s : Waypoint}
    (hd : ∀ s, w.last = some s → s.depth < t.size)
    (e : w.next t stops links = .visit s w' links') :
  weight t w' < weight t w ∧ w'.last = some s
  := by
  unfold next at e
  split at e
  · cases e
  · cases e
  · rename_i s' rest links'' hdesc
    split at e
    · cases e
    · cases e
      have := weight_descend hd hdesc
      have hpos := waypointWeight_pos t s
      rw [List.map_cons, total] at this
      refine ⟨?_, rfl⟩
      simp only [weight, Option.elim_some]
      simp only [weight] at this
      omega

/-! ### Taking a walk to its end -/

/-- A node with the parent it is linked to at the moment it is visited. -/
structure Visit where
  node : Handle
  parent : Option Handle
  deriving DecidableEq, Inhabited

/-- How a walk ends. -/
inductive Ending where
  | finished
  | stopped (h : Handle)
  | failed (f : Tree.Fault)
  | unending
  deriving DecidableEq, Inhabited

/-- What a walk has visited, how it has ended and the links it leaves. -/
structure Trail where
  visits : List Visit
  ending : Ending
  links : Links

/-- The rest of a walk whose last node is not too deep. -/
def rest (t : Tree) (stops : Handle → Bool) (links : Links) (w : Walk)
    (hd : ∀ s, w.last = some s → s.depth < t.size) : Trail :=
  match e : w.next t stops links with
  | .finished links => ⟨[], .finished, links⟩
  | .stopped h links => ⟨[], .stopped h, links⟩
  | .failed f links => ⟨[], .failed f, links⟩
  | .visit s w' links' =>
    let visit : Visit := ⟨s.node, links' s.node⟩
    if hs : s.depth < t.size then
      let trail := rest t stops links' w' (by
        intro s' hs'
        rw [(weight_next hd e).2] at hs'
        cases hs'
        exact hs)
      { trail with visits := visit :: trail.visits }
    else ⟨[visit], .unending, links'⟩
termination_by weight t w
decreasing_by exact (weight_next hd e).1

end Walk

namespace Tree

/-- The walk from some roots, taken to its end or to the first node for which `stops` holds. -/
def walk (t : Tree) (links : Links) (roots : List Handle) (stops : Handle → Bool) : Walk.Trail :=
  (Walk.start roots).rest t stops links (by simp [Walk.start])

/-- The walk from the statements of the program. -/
def walkBody (t : Tree) (links : Links) : Walk.Trail :=
  t.walk links t.body fun _ => false

/-- The functions of the tree in the order of a walk. -/
def functions (t : Tree) (trail : Walk.Trail) : List Handle :=
  (trail.visits.map Walk.Visit.node).filter t.isFunction

end Tree

end DocPages

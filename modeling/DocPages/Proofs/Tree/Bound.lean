import DocPages.Proofs.Tree.Assigned

/-!
# Names of bound functions

The name of a chain of members can be read off the chain from left to right.  Segments are joined by
points, but a prototype that a point joins and that another segment follows becomes a number sign
together with the points around it.  So there is a number sign in the name exactly if there is a
prototype inside the chain, and the last segment is the short name.  A function that stands under
keys in what is bound to the chain is named by the chain and then by the keys as they are.
-/

namespace DocPages

open QualifiedName

/-! ### Chains read from left to right -/

/-- The name that starts with `x` and goes on with some segments. -/
def chainedAfter : String → List String → String
  | x, [] => x
  | x, [s] => x ++ "." ++ s
  | x, s :: s' :: ss =>
    if s = "prototype" then chainedAfter (x ++ "#" ++ s') ss
    else chainedAfter (x ++ "." ++ s) (s' :: ss)

/-- The name of a chain of segments. -/
def chained : List String → String
  | [] => ""
  | p :: ps => chainedAfter p ps

variable {x s : String} {ps : List String}

theorem toList_append_sign (x s : String) :
  (x ++ "#" ++ s).toList = x.toList ++ '#' :: s.toList
  := by
  rw [String.toList_append, String.toList_append, List.append_assoc]
  rfl

/-- A segment after a prototype that a point joins is set off by a number sign. -/
theorem memberName_memberName_prototype (hx : Marked x) (he : ¬ EndsInPrototype x)
    (hs : IsSegment s.toList) :
  memberName (memberName x "prototype") s = x ++ "#" ++ s
  := by
  have hproto : IsSegment "prototype".toList := by decide
  have hmarked := marked_memberName hx hproto
  rw [memberName_of_not_endsInPrototype hx hproto he] at hmarked ⊢
  obtain ⟨y, hy, hname⟩ :=
    memberName_of_endsInPrototype hmarked hs ((endsInPrototype_append_iff hproto).2 rfl)
  have hxy : x = y := by
    rw [String.append_assoc] at hy
    simpa using hy
  rw [hname, hxy]

/-- Marking each prototype when a segment is added to it comes to the same as reading the chain from
left to right. -/
theorem foldl_memberName_eq_chainedAfter (hx : Marked x) (he : ¬ EndsInPrototype x)
    (hps : ∀ p ∈ ps, IsSegment p.toList) :
  ps.foldl memberName x = chainedAfter x ps
  := by
  -- The name so far ends in a prototype only between the two steps that make a number sign of it.
  fun_induction chainedAfter x ps with
  | case1 x => rfl
  | case2 x s =>
    rw [List.foldl_cons, List.foldl_nil,
      memberName_of_not_endsInPrototype hx (hps s List.mem_cons_self) he]
  | case3 x s' ss ih =>
    simp only [List.forall_mem_cons] at hps
    obtain ⟨hs, hs', hss⟩ := hps
    have hname := memberName_memberName_prototype hx he hs'
    rw [List.foldl_cons, List.foldl_cons, hname]
    apply ih
    · rw [← hname]
      apply marked_memberName (marked_memberName hx hs) hs'
    · rw [endsInPrototype_iff (by decide) hs' (toList_append_sign x s')]
      simp
    · apply hss
  | case4 x s s' ss hne ih =>
    rw [List.forall_mem_cons] at hps
    have hname := memberName_of_not_endsInPrototype hx hps.1 he
    rw [List.foldl_cons, hname]
    apply ih
    · rw [← hname]
      apply marked_memberName hx hps.1
    · rw [endsInPrototype_append_iff hps.1]
      apply hne
    · apply hps.2

theorem mem_chainedAfter_iff (hps : ∀ p ∈ ps, IsSegment p.toList) :
  '#' ∈ (chainedAfter x ps).toList ↔ '#' ∈ x.toList ∨ "prototype" ∈ ps.dropLast
  := by
  fun_induction chainedAfter x ps with
  | case1 x => simp
  | case2 x s =>
    have hs := (hps s List.mem_cons_self).not_mem (c := '#') rfl
    simp [hs]
  | case3 x s' ss ih =>
    simp only [List.forall_mem_cons] at hps
    rw [ih hps.2.2, toList_append_sign]
    simp
  | case4 x s s' ss hne ih =>
    rw [List.forall_mem_cons] at hps
    have hs := hps.1.not_mem (c := '#') rfl
    rw [ih hps.2, toList_append_dot, List.dropLast_cons_cons]
    simp [hs, Ne.symm hne]

theorem shortName_chainedAfter (hps : ∀ p ∈ ps, IsSegment p.toList) :
  (parse (chainedAfter x ps)).shortName = ps.getLast?.getD (parse x).shortName
  := by
  fun_induction chainedAfter x ps with
  | case1 x => rfl
  | case2 x s =>
    rw [shortName_append_cons (toList_append_dot x s) (by decide) (hps s List.mem_cons_self),
      String.ofList_toList]
    rfl
  | case3 x s' ss ih =>
    simp only [List.forall_mem_cons] at hps
    rw [ih hps.2.2, shortName_append_cons (toList_append_sign x s') (by decide) hps.2.1,
      String.ofList_toList, List.getLast?_cons_cons, List.getLast?_cons, Option.getD_some]
  | case4 x s s' ss hne ih =>
    rw [List.forall_mem_cons] at hps
    rw [ih hps.2, List.getLast?_cons_cons, List.getLast?_cons, Option.getD_some, Option.getD_some]

/-! ### Whole chains -/

theorem chainName_eq_chained (hps : ∀ p ∈ ps, IsSegment p.toList) :
  Tree.chainName ps = chained ps
  := by
  cases ps with
  | nil => rfl
  | cons p ps =>
    rw [List.forall_mem_cons] at hps
    apply foldl_memberName_eq_chainedAfter (marked_of_isSegment hps.1)
    · intro he
      exact hps.1.not_mem (c := '.') rfl (he.subset (by decide))
    · apply hps.2

theorem mem_chained_iff (hps : ∀ p ∈ ps, IsSegment p.toList) :
  '#' ∈ (chained ps).toList ↔ "prototype" ∈ ps.tail.dropLast
  := by
  cases ps with
  | nil => simp [chained]
  | cons p ps =>
    rw [List.forall_mem_cons] at hps
    have hp := hps.1.not_mem (c := '#') rfl
    rw [chained, mem_chainedAfter_iff hps.2, List.tail_cons]
    simp [hp]

theorem getLast?_eq_shortName_chained (hne : ps ≠ []) (hps : ∀ p ∈ ps, IsSegment p.toList) :
  ps.getLast? = some (parse (chained ps)).shortName
  := by
  cases ps with
  | nil => exact absurd rfl hne
  | cons p ps =>
    rw [List.forall_mem_cons] at hps
    rw [chained, shortName_chainedAfter hps.2, shortName_of_isSegment hps.1, List.getLast?_cons]

/-- A function under keys in what is bound to a chain of segments is named by the chain and then by
the keys.  In the name of the chain there is a number sign exactly if there is a prototype between
its first and its last segment, no prototype is left between two segments, and the last segment is
the short name. -/
theorem name?_eq_chained (hne : ps ≠ []) (hps : ∀ p ∈ ps, IsSegment p.toList) :
  (∀ (t : Tree) (links : Links) (ks : List String) (u f : Handle) (n : Node),
      t.Branching → (t.walkBody links).ending = .finished → t.Binds ps u → t.Nested u ks f →
      t.node? f = some n → n.kind = .functionExpression →
      t.name? (t.walkBody links).links (some f) = .ok (some (keyedName (chained ps) ks)))
    ∧ ('#' ∈ (chained ps).toList ↔ "prototype" ∈ ps.tail.dropLast)
    ∧ ¬ ".prototype.".toList <:+: (chained ps).toList
    ∧ ps.getLast? = some (parse (chained ps)).shortName
  := by
  have hname := chainName_eq_chained hps
  constructor
  · intro t links ks u f n hb he hu hk hn hf
    rw [← hname]
    apply hu.name?_eq hb he hk hn hf
  · have hmarked := Tree.marked_chainName hps
    rw [hname] at hmarked
    exact ⟨mem_chained_iff hps, hmarked, getLast?_eq_shortName_chained hne hps⟩

/-! ### Prototypes in a row -/

/-- The tree of `a.prototype.prototype.b = {prototype: {c: function() {}}}`. -/
def prototypesInRow : Tree where
  nodes :=
    #[⟨.expressionStatement, ⟨0, 0⟩, [("expression", .node 1)]⟩,
      ⟨.assignmentExpression, ⟨0, 0⟩, [("left", .node 2), ("right", .node 9)]⟩,
      ⟨.memberExpression, ⟨0, 0⟩, [("object", .node 3), ("property", .node 8)]⟩,
      ⟨.memberExpression, ⟨0, 0⟩, [("object", .node 4), ("property", .node 7)]⟩,
      ⟨.memberExpression, ⟨0, 0⟩, [("object", .node 5), ("property", .node 6)]⟩,
      ⟨.identifier, ⟨0, 0⟩, [("name", .text "a")]⟩,
      ⟨.identifier, ⟨0, 0⟩, [("name", .text "prototype")]⟩,
      ⟨.identifier, ⟨0, 0⟩, [("name", .text "prototype")]⟩,
      ⟨.identifier, ⟨0, 0⟩, [("name", .text "b")]⟩,
      ⟨.objectExpression, ⟨0, 0⟩, [("properties", .nodes [10])]⟩,
      ⟨.property, ⟨0, 0⟩, [("key", .node 11), ("value", .node 12)]⟩,
      ⟨.identifier, ⟨0, 0⟩, [("name", .text "prototype")]⟩,
      ⟨.objectExpression, ⟨0, 0⟩, [("properties", .nodes [13])]⟩,
      ⟨.property, ⟨0, 0⟩, [("key", .node 14), ("value", .node 15)]⟩,
      ⟨.identifier, ⟨0, 0⟩, [("name", .text "c")]⟩,
      ⟨.functionExpression, ⟨0, 0⟩,
        [("id", .nothing), ("params", .nodes []), ("body", .node 16)]⟩,
      ⟨.blockStatement, ⟨0, 0⟩, [("body", .nodes [])]⟩]
  body := [0]

theorem branching_prototypesInRow :
  prototypesInRow.Branching
  := ⟨by decide, by decide⟩

theorem finished_prototypesInRow :
  (prototypesInRow.walkBody Links.none).ending = .finished
  := by
  apply branching_prototypesInRow.forest.finished_of_closed Links.none
    [0, 1, 9, 10, 11, 12, 13, 14, 15, 16]
  · decide
  · decide

theorem binds_prototypesInRow :
  prototypesInRow.Binds ["a", "prototype", "prototype", "b"] 9
  := by
  have hreach : prototypesInRow.Reaches prototypesInRow.body 1 :=
    (Tree.Reaches.start (h := 0) (by decide)).child (by decide)
  have h₁ : prototypesInRow.Chain ["a"] 5 := .identifier ⟨_, rfl, rfl, rfl⟩
  have h₂ : prototypesInRow.Chain ["a", "prototype"] 4 :=
    .member rfl rfl rfl h₁ rfl ⟨_, rfl, rfl, rfl⟩
  have h₃ : prototypesInRow.Chain ["a", "prototype", "prototype"] 3 :=
    .member rfl rfl rfl h₂ rfl ⟨_, rfl, rfl, rfl⟩
  have h₄ : prototypesInRow.Chain ["a", "prototype", "prototype", "b"] 2 :=
    .member rfl rfl rfl h₃ rfl ⟨_, rfl, rfl, rfl⟩
  exact .assignment hreach rfl rfl rfl h₄ rfl

theorem nested_prototypesInRow :
  prototypesInRow.Nested 9 ["prototype", "c"] 15
  := by
  have houter : prototypesInRow.Entry 9 10 "prototype" 12 :=
    ⟨⟨_, rfl, rfl⟩, by decide, _, _, rfl, rfl, rfl, ⟨_, rfl, rfl, rfl⟩, rfl⟩
  have hinner : prototypesInRow.Entry 12 13 "c" 15 :=
    ⟨⟨_, rfl, rfl⟩, by decide, _, _, rfl, rfl, rfl, ⟨_, rfl, rfl, rfl⟩, rfl⟩
  exact (Tree.Nested.self.key houter).key hinner

theorem name?_eq_chained_prototypesInRow :
  (∀ p ∈ ["a", "prototype", "prototype", "b"], IsSegment p.toList)
    ∧ prototypesInRow.Branching ∧ (prototypesInRow.walkBody Links.none).ending = .finished
    ∧ prototypesInRow.Binds ["a", "prototype", "prototype", "b"] 9
    ∧ prototypesInRow.Nested 9 ["prototype", "c"] 15
    ∧ prototypesInRow.name? (prototypesInRow.walkBody Links.none).links (some 15)
      = .ok (some "a#prototype.b.prototype.c")
    ∧ '#' ∈ (chained ["a", "prototype", "prototype", "b"]).toList
    ∧ (parse (chained ["a", "prototype", "prototype", "b"])).shortName = "b"
  := by
  have hps : ∀ p ∈ ["a", "prototype", "prototype", "b"], IsSegment p.toList := by decide
  obtain ⟨hname, hsign, -, hlast⟩ := name?_eq_chained (List.cons_ne_nil _ _) hps
  have hkeyed : keyedName (chained ["a", "prototype", "prototype", "b"]) ["prototype", "c"]
      = "a#prototype.b.prototype.c" := by decide
  use hps, branching_prototypesInRow, finished_prototypesInRow, binds_prototypesInRow,
    nested_prototypesInRow
  constructor
  · rw [← hkeyed]
    apply hname prototypesInRow Links.none _ 9 15 _ branching_prototypesInRow
      finished_prototypesInRow binds_prototypesInRow nested_prototypesInRow rfl rfl
  · exact ⟨hsign.2 (by decide), (Option.some.inj hlast).symm⟩

end DocPages

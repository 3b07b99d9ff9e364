import DocPages.Proofs.Tree.References

/-!
# The trail of a walk

In a forest a walk visits the preorder, cut at the first place where the walk stops or cannot go on.
The links are those of the children of the places that are visited, and a place is linked before it
is visited.
-/

namespace DocPages

/-! ### Links -/

/-- The links once the children of each place have been looked at. -/
def Links.settle (t : Tree) (links : Links) : List Handle → Links
  | [] => links
  | p :: ps => settle t (links.setAll (t.children p).nodes p) ps

namespace Links

variable {t : Tree}

theorem settle_append (links : Links) (ps qs : List Handle) :
  links.settle t (ps ++ qs) = (links.settle t ps).settle t qs
  := by
  induction ps generalizing links with
  | nil => rfl
  | cons p ps ih => apply ih

/-- A place that is listed nowhere keeps its link. -/
theorem settle_of_not_mem {links : Links} {ps : List Handle} {h : Handle}
    (hn : ∀ p ∈ ps, h ∉ (t.children p).nodes) :
  links.settle t ps h = links h
  := by
  induction ps generalizing links with
  | nil => rfl
  | cons p ps ih =>
    rw [settle, ih fun q hq => hn q (List.mem_cons_of_mem _ hq)]
    apply if_neg
    apply hn p List.mem_cons_self

/-- A place that is listed at one place is linked to it. -/
theorem settle_of_mem {links : Links} {ps : List Handle} {p h : Handle} (hp : p ∈ ps)
    (hc : h ∈ (t.children p).nodes) (hu : ∀ q ∈ ps, h ∈ (t.children q).nodes → q = p) :
  links.settle t ps h = some p
  := by
  induction ps generalizing links with
  | nil => cases hp
  | cons q ps ih =>
    rw [settle]
    by_cases hmem : p ∈ ps
    · apply ih hmem
      intro r hr
      apply hu r (List.mem_cons_of_mem _ hr)
    · have hq : p = q := by simpa [hmem] using hp
      rw [settle_of_not_mem]
      · rw [← hq]
        apply if_pos hc
      · intro r hr hcr
        apply hmem
        rw [← hu r (List.mem_cons_of_mem _ hr) hcr]
        apply hr

end Links

namespace NodeKind

/-- The kinds of which a walk knows the children. -/
def walked : List NodeKind :=
  [functionDeclaration, functionExpression, blockStatement, expressionStatement,
    assignmentExpression, callExpression, objectExpression, property, variableDeclaration,
    variableDeclarator, identifier, emptyStatement, returnStatement]

end NodeKind

/-! ### Faults -/

namespace Tree

variable {t : Tree}

theorem Children.fault_ofItems (items : List FieldValue) (u : Handle) :
  (ofItems items).fault ≠ some (.unknownKind u)
  := by
  induction items with
  | nil => simp [ofItems]
  | cons v items ih => cases v <;> simp [ofItems, ih]

theorem Children.fault_many (n : Node) (key : String) (u : Handle) :
  (many n key).fault ≠ some (.unknownKind u)
  := by
  unfold many
  split
  · simp
  · simp
  · apply fault_ofItems
  · apply fault_ofItems

theorem Children.fault_callee (n : Node) (u : Handle) :
  (callee t n).fault ≠ some (.unknownKind u)
  := by
  unfold callee
  split
  · simp
  · split <;> simp
  · simp
  · simp

/-- A walk does not know a place exactly if its kind is none of those that it knows. -/
theorem fault_eq_unknownKind_iff {h u : Handle} :
  (t.children h).fault = some (.unknownKind u)
    ↔ u = h ∧ ∃ n, t.node? h = some n ∧ n.kind ∉ NodeKind.walked
  := by
  unfold children
  cases hn : t.node? h with
  | none => simp
  | some n =>
    have hkind : (t.childrenOf h n).fault = some (.unknownKind u)
        ↔ u = h ∧ n.kind ∉ NodeKind.walked := by
      unfold childrenOf
      cases n.kind <;>
        simp [NodeKind.walked, Children.fault_ofItems, Children.fault_many, Children.fault_callee,
          eq_comm]
    simpa using hkind

end Tree

namespace Walk

variable {t : Tree} {stops : Handle → Bool}

/-! ### Where a walk is cut -/

/-- `Cut t stops order visited ending`: of `order`, the places `visited` are visited and then there
is `ending`.  The walk ends before a place where it stops and after a place whose children it
cannot go to. -/
inductive Cut (t : Tree) (stops : Handle → Bool) :
    List Handle → List Handle → Ending → Prop where
  | finished :
      Cut t stops [] [] .finished
  | stopped {h : Handle} {after : List Handle} :
      stops h → Cut t stops (h :: after) [] (.stopped h)
  | unknown {h : Handle} {after : List Handle} {n : Node} :
      stops h = false → t.node? h = some n → n.kind ∉ NodeKind.walked →
      Cut t stops (h :: after) [h] (.failed (.unknownKind h))
  | misplaced {h : Handle} {after : List Handle} {f : Tree.Fault} :
      stops h = false → (t.children h).fault = some f → (∀ u, f ≠ .unknownKind u) →
      Cut t stops (h :: after) [h] (.failed f)
  | visited {h : Handle} {after visited : List Handle} {e : Ending} :
      stops h = false → (t.children h).fault = none → Cut t stops after visited e →
      Cut t stops (h :: after) (h :: visited) e

theorem cut_of_fault {h : Handle} {f : Tree.Fault} (hs : stops h = false)
    (hf : (t.children h).fault = some f) (after : List Handle) :
  Cut t stops (h :: after) [h] (.failed f)
  := by
  cases f with
  | unknownKind u =>
    obtain ⟨rfl, n, hn, hk⟩ := Tree.fault_eq_unknownKind_iff.1 hf
    apply Cut.unknown hs hn hk
  | noNode => apply Cut.misplaced hs hf (by simp)
  | noList => apply Cut.misplaced hs hf (by simp)

/-- What is visited is the start of the order. -/
theorem Cut.initial {order vs : List Handle} {e : Ending} (h : Cut t stops order vs e) :
  vs <+: order
  := by
  induction h with
  | finished | stopped _ => apply List.nil_prefix
  | unknown _ _ _ | misplaced _ _ _ => exact ⟨_, rfl⟩
  | visited _ _ _ ih => apply (List.prefix_cons_inj _).2 ih

/-- A place that a walk does not know has a fault. -/
theorem fault_of_not_walked {h : Handle} {n : Node} (hn : t.node? h = some n)
    (hk : n.kind ∉ NodeKind.walked) :
  (t.children h).fault = some (.unknownKind h)
  := Tree.fault_eq_unknownKind_iff.2 ⟨rfl, n, hn, hk⟩

/-- An order is cut in one way. -/
theorem Cut.unique {order vs vs' : List Handle} {e e' : Ending} (h : Cut t stops order vs e)
    (h' : Cut t stops order vs' e') :
  vs = vs' ∧ e = e'
  := by
  induction h generalizing vs' e' with
  | finished =>
    cases h'
    exact ⟨rfl, rfl⟩
  | stopped hs =>
    cases h' with
    | stopped _ => exact ⟨rfl, rfl⟩
    | unknown hs' _ _ | misplaced hs' _ _ | visited hs' _ _ => simp [hs] at hs'
  | unknown hs hn hk =>
    have hf := fault_of_not_walked hn hk
    cases h' with
    | stopped hs' => simp [hs] at hs'
    | unknown _ _ _ => exact ⟨rfl, rfl⟩
    | misplaced _ hf' hu =>
      rw [hf] at hf'
      cases hf'
      exact absurd rfl (hu _)
    | visited _ hf' _ => simp [hf] at hf'
  | misplaced hs hf hu =>
    cases h' with
    | stopped hs' => simp [hs] at hs'
    | unknown _ hn hk =>
      rw [fault_of_not_walked hn hk] at hf
      cases hf
      exact absurd rfl (hu _)
    | misplaced _ hf' _ =>
      rw [hf] at hf'
      cases hf'
      exact ⟨rfl, rfl⟩
    | visited _ hf' _ => simp [hf] at hf'
  | visited hs hf _ ih =>
    cases h' with
    | stopped hs' => simp [hs] at hs'
    | unknown _ hn hk => simp [fault_of_not_walked hn hk] at hf
    | misplaced _ hf' _ => simp [hf] at hf'
    | visited _ _ h' =>
      obtain ⟨rfl, rfl⟩ := ih h'
      exact ⟨rfl, rfl⟩

/-! ### One step -/

/-- What there is to visit once the children of the last place have been looked at. -/
def front (t : Tree) (w : Walk) : List Waypoint :=
  match w.last with
  | none => w.pending
  | some s => (t.children s.node).nodes.map (fun h => ⟨h, s.depth + 1⟩) ++ w.pending

theorem map_node_front (s : Waypoint) (rest : List Waypoint) :
  (front t { last := some s, pending := rest }).map Waypoint.node
    = (t.children s.node).nodes ++ rest.map Waypoint.node
  := by
  simp [front, Function.comp_def]

theorem map_node_front_start (roots : List Handle) :
  (front t (start roots)).map Waypoint.node = roots
  := by
  simp [start, front, Function.comp_def]

/-- The links once the children of the last place have been looked at. -/
def settled (t : Tree) (links : Links) (w : Walk) : Links :=
  links.settle t (w.last.map Waypoint.node).toList

/-- A walk whose last place has no fault goes on to the first place in front of it. -/
theorem next_eq (stops : Handle → Bool) (links : Links) {w : Walk}
    (hf : ∀ s ∈ w.last, (t.children s.node).fault = none) :
  w.next t stops links = match w.front t with
    | [] => .finished (w.settled t links)
    | s :: rest =>
      if stops s.node then .stopped s.node (w.settled t links)
      else .visit s { last := some s, pending := rest } (w.settled t links)
  := by
  have hd : w.descend t links = (w.settled t links, .ok (w.front t)) := by
    unfold descend front settled
    cases hl : w.last with
    | none => rfl
    | some s =>
      simp only [hf s hl]
      rfl
  rw [next, hd]
  cases w.front t with
  | nil => rfl
  | cons s rest => rfl

/-- A walk whose last place has a fault ends. -/
theorem next_of_fault (stops : Handle → Bool) (links : Links) {w : Walk} {s : Waypoint}
    {f : Tree.Fault} (hs : w.last = some s) (hf : (t.children s.node).fault = some f) :
  w.next t stops links = .failed f (w.settled t links)
  := by
  have hd : w.descend t links = (w.settled t links, .error f) := by
    unfold descend settled
    simp only [hs, hf]
    rfl
  rw [next, hd]

/-! ### Whole walks -/

/-- The visits to places, each after the children of the places before it have been looked at. -/
def visitsTo (t : Tree) (links : Links) : List Handle → List Visit
  | [] => []
  | h :: hs => ⟨h, links h⟩ :: visitsTo t (links.setAll (t.children h).nodes h) hs

theorem map_node_visitsTo (links : Links) (hs : List Handle) :
  (visitsTo t links hs).map Visit.node = hs
  := by
  induction hs generalizing links with
  | nil => rfl
  | cons h hs ih => rw [visitsTo, List.map_cons, ih]

section Equations

variable {links links' : Links} {w w' : Walk} {hd : ∀ s, w.last = some s → s.depth < t.size}

theorem rest_of_finished (e : w.next t stops links = .finished links') :
  w.rest t stops links hd = ⟨[], .finished, links'⟩
  := by
  unfold rest
  split <;> rename_i e' <;> rw [e] at e' <;> cases e'
  rfl

theorem rest_of_stopped {h : Handle} (e : w.next t stops links = .stopped h links') :
  w.rest t stops links hd = ⟨[], .stopped h, links'⟩
  := by
  unfold rest
  split <;> rename_i e' <;> rw [e] at e' <;> cases e'
  rfl

theorem rest_of_failed {f : Tree.Fault} (e : w.next t stops links = .failed f links') :
  w.rest t stops links hd = ⟨[], .failed f, links'⟩
  := by
  unfold rest
  split <;> rename_i e' <;> rw [e] at e' <;> cases e'
  rfl

theorem rest_of_visit {s : Waypoint} (e : w.next t stops links = .visit s w' links')
    (hs : s.depth < t.size) (hd' : ∀ s, w'.last = some s → s.depth < t.size) :
  w.rest t stops links hd
    = { w'.rest t stops links' hd' with
        visits := ⟨s.node, links' s.node⟩ :: (w'.rest t stops links' hd').visits }
  := by
  rw [rest]
  split <;> rename_i e' <;> rw [e] at e' <;> cases e'
  rw [dif_pos hs]

end Equations

/-- A walk goes through the preorder of what is in front of it, if that lies less deep than there
are places. -/
theorem rest_eq {links : Links} {w : Walk} {hd : ∀ s, w.last = some s → s.depth < t.size}
    {order : List Handle} (hf : ∀ s ∈ w.last, (t.children s.node).fault = none)
    (hp : t.Preorder ((w.front t).map Waypoint.node) order)
    (hroom : ∀ s ∈ w.front t, ∀ k h, t.Below s.node k h → s.depth + k < t.size) :
  ∃ vs e, Cut t stops order vs e
    ∧ w.rest t stops links hd
      = ⟨visitsTo t (w.settled t links) vs, e, (w.settled t links).settle t vs⟩
  := by
  induction order generalizing links w with
  | nil =>
    have hnext := next_eq stops links hf
    cases hfront : w.front t with
    | nil =>
      rw [hfront] at hnext
      exact ⟨[], .finished, Cut.finished, rest_of_finished hnext⟩
    | cons s rest =>
      rw [hfront] at hp
      cases hp
  | cons h order ih =>
    have hnext := next_eq stops links hf
    cases hfront : w.front t with
    | nil =>
      rw [hfront] at hp
      cases hp
    | cons s rest =>
      rw [hfront] at hnext hp hroom
      dsimp only at hnext
      cases hp with
      | @cons _ _ below after hbelow hafter =>
      have hs : s.depth < t.size := hroom s List.mem_cons_self 0 s.node .self
      by_cases hstop : stops s.node
      · rw [if_pos hstop] at hnext
        exact ⟨[], .stopped s.node, Cut.stopped hstop, rest_of_stopped hnext⟩
      · rw [if_neg hstop] at hnext
        rw [Bool.not_eq_true] at hstop
        let w' : Walk := { last := some s, pending := rest }
        have hd' : ∀ u, w'.last = some u → u.depth < t.size := by
          rintro u ⟨⟩
          apply hs
        rw [rest_of_visit hnext hs hd']
        cases hfault : (t.children s.node).fault with
        | some f =>
          have hend := next_of_fault (w := w') stops (w.settled t links) rfl hfault
          rw [rest_of_failed hend]
          exact ⟨[s.node], .failed f, cut_of_fault hstop hfault _, rfl⟩
        | none =>
          have hpre := hbelow.append hafter
          rw [← map_node_front] at hpre
          have hroom' : ∀ u ∈ w'.front t, ∀ k h, t.Below u.node k h → u.depth + k < t.size := by
            intro u hu k h hb
            rcases List.mem_append.1 hu with hu | hu
            · obtain ⟨c, hc, rfl⟩ := List.mem_map.1 hu
              have hsc : t.Below s.node 1 c := Tree.Below.self.child hc
              have := hroom s List.mem_cons_self _ h (hsc.trans hb)
              dsimp only
              omega
            · apply hroom u (List.mem_cons_of_mem _ hu) k h hb
          have hlast : ∀ u ∈ w'.last, (t.children u.node).fault = none := by
            rintro u ⟨⟩
            apply hfault
          obtain ⟨vs, e, hcut, heq⟩ := ih hlast hpre hroom'
          rw [heq]
          exact ⟨s.node :: vs, e, Cut.visited hstop hfault hcut, rfl⟩

end Walk

namespace Tree

variable {t : Tree} {roots : List Handle} {stops : Handle → Bool} {links : Links}

/-! ### Walks through forests -/

/-- In a forest a walk visits the preorder up to where it is cut. -/
theorem Forest.walk_eq (hf : t.Forest roots) (links : Links) (stops : Handle → Bool)
    {order : List Handle} (hp : t.Preorder roots order) :
  ∃ vs e, Walk.Cut t stops order vs e
    ∧ t.walk links roots stops = ⟨Walk.visitsTo t links vs, e, links.settle t vs⟩
  := by
  have hpre := hp
  rw [← Walk.map_node_front_start (t := t) roots] at hpre
  apply Walk.rest_eq (w := Walk.start roots) (by simp [Walk.start]) hpre
  intro s hs k h hb
  obtain ⟨r, hr, rfl⟩ := List.mem_map.1 hs
  have := hf.depth_lt_size hr hb
  simpa using this

/-- A place is linked before it is visited, and not again later. -/
theorem Forest.settle_eq (hf : t.Forest roots) (links : Links)
    {order before after : List Handle} {h : Handle} (hp : t.Preorder roots order)
    (ho : before ++ h :: after <+: order) :
  links.settle t before h = links.settle t (before ++ h :: after) h
  := by
  have hreach : ∀ p ∈ before ++ h :: after, t.Reaches roots p :=
    fun p hm => hp.mem_iff.1 (ho.subset hm)
  obtain ⟨rest, hrest⟩ := ho
  rw [List.append_assoc, List.cons_append] at hrest
  rcases hp.parent_before hrest.symm with hr | ⟨p, hmem, hc⟩
  · have hnone : ∀ p ∈ before ++ h :: after, h ∉ (t.children p).nodes :=
      fun p hm hc => hf.not_mem_roots (hreach p hm) hc hr
    rw [Links.settle_of_not_mem hnone]
    apply Links.settle_of_not_mem
    intro p hm
    apply hnone p (List.mem_append_left _ hm)
  · have hall : p ∈ before ++ h :: after := List.mem_append_left _ hmem
    have hunique : ∀ q ∈ before ++ h :: after, h ∈ (t.children q).nodes → q = p :=
      fun q hm hq => hf.parent_unique (hreach q hm) (hreach p hall) hq hc
    rw [Links.settle_of_mem hall hc hunique]
    apply Links.settle_of_mem hmem hc
    intro q hm
    apply hunique q (List.mem_append_left _ hm)

/-- Each place is visited with the link that the walk leaves it with. -/
theorem Forest.visitsTo_eq (hf : t.Forest roots) {order vs : List Handle}
    (hp : t.Preorder roots order) (hvs : vs <+: order) :
  Walk.visitsTo t links vs = vs.map fun h => ⟨h, links.settle t vs h⟩
  := by
  have hafter : ∀ before after, before ++ after = vs →
      Walk.visitsTo t (links.settle t before) after
        = after.map fun h => ⟨h, links.settle t vs h⟩ := by
    intro before after he
    induction after generalizing before with
    | nil => rfl
    | cons h after ih =>
      have hstart : before ++ h :: after <+: order := by
        rw [he]
        apply hvs
      have hlink := hf.settle_eq links hp hstart
      have htail := ih (before ++ [h]) (by rw [← he]; simp)
      rw [Links.settle_append] at htail
      rw [List.map_cons, Walk.visitsTo, hlink, he]
      congr 1
  apply hafter [] vs rfl

/-- The children of a visited place are linked to it. -/
theorem Forest.settle_child (hf : t.Forest roots) (links : Links) {vs : List Handle}
    (hvs : ∀ p ∈ vs, t.Reaches roots p) {p h : Handle} (hm : p ∈ vs)
    (hc : h ∈ (t.children p).nodes) :
  links.settle t vs h = some p
  := by
  apply Links.settle_of_mem hm hc
  intro q hq hcq
  apply hf.parent_unique (hvs q hq) (hvs p hm) hcq hc

/-- Visiting the same places again changes no link. -/
theorem Forest.settle_settle (hf : t.Forest roots) (links : Links) {vs : List Handle}
    (hvs : ∀ p ∈ vs, t.Reaches roots p) :
  (links.settle t vs).settle t vs = links.settle t vs
  := by
  funext h
  by_cases hlisted : ∃ p ∈ vs, h ∈ (t.children p).nodes
  · obtain ⟨p, hm, hc⟩ := hlisted
    rw [hf.settle_child _ hvs hm hc, hf.settle_child _ hvs hm hc]
  · apply Links.settle_of_not_mem
    intro p hm hc
    apply hlisted ⟨p, hm, hc⟩

/-- A visited place is a root, or it is listed at a visited place. -/
theorem Preorder.exists_parent {order vs : List Handle} (hp : t.Preorder roots order)
    (hvs : vs <+: order) {h : Handle} (hm : h ∈ vs) (hr : h ∉ roots) :
  ∃ p ∈ vs, h ∈ (t.children p).nodes
  := by
  obtain ⟨before, after, rfl⟩ := List.append_of_mem hm
  obtain ⟨rest, hrest⟩ := hvs
  rw [List.append_assoc, List.cons_append] at hrest
  rcases hp.parent_before hrest.symm with hmem | ⟨p, hmem, hc⟩
  · exact absurd hmem hr
  · exact ⟨p, List.mem_append_left _ hmem, hc⟩

/-- What a walk through a forest has done: it has visited `vs`, the start of the preorder
`order`. -/
structure Covers (t : Tree) (links : Links) (roots : List Handle) (stops : Handle → Bool)
    (order vs : List Handle) : Prop where
  preorder : t.Preorder roots order
  nodup : order.Nodup
  mem_order : ∀ h, h ∈ order ↔ t.Reaches roots h
  cut : Walk.Cut t stops order vs (t.walk links roots stops).ending
  nodes : (t.walk links roots stops).visits.map Walk.Visit.node = vs
  parent : ∀ v ∈ (t.walk links roots stops).visits, v.node ∉ roots →
    ∃ p ∈ vs, v.parent = some p ∧ v.node ∈ (t.children p).nodes
      ∧ ∀ q, t.Reaches roots q → v.node ∈ (t.children q).nodes → q = p
  linked : ∀ p ∈ vs, ∀ h ∈ (t.children p).nodes, (t.walk links roots stops).links h = some p
  kept : ∀ h, (∀ p ∈ vs, h ∉ (t.children p).nodes) → (t.walk links roots stops).links h = links h
  again : t.walk (t.walk links roots stops).links roots stops = t.walk links roots stops

/-- A walk through a forest visits each place of the preorder once, up to where it is cut, with its
parent linked.  It links the children of the visited places and no others, and another walk does
the same. -/
theorem walk_forest (hf : t.Forest roots) (links : Links) (stops : Handle → Bool) :
  ∃ order vs, t.Covers links roots stops order vs
  := by
  obtain ⟨order, hp⟩ := hf.exists_preorder
  obtain ⟨vs, e, hcut, heq⟩ := hf.walk_eq links stops hp
  have hreach : ∀ p ∈ vs, t.Reaches roots p :=
    fun p hm => hp.mem_iff.1 (hcut.initial.subset hm)
  have hvisits : Walk.visitsTo t links vs = vs.map fun h => ⟨h, links.settle t vs h⟩ :=
    hf.visitsTo_eq hp hcut.initial
  use order, vs
  constructor
  · apply hp
  · apply hf.nodup_preorder hp
  · intro h
    apply hp.mem_iff
  · rw [heq]
    apply hcut
  · rw [heq]
    apply Walk.map_node_visitsTo
  · rw [heq, hvisits]
    intro v hv hr
    obtain ⟨h, hm, rfl⟩ := List.mem_map.1 hv
    obtain ⟨p, hmem, hc⟩ := hp.exists_parent hcut.initial hm hr
    use p, hmem, hf.settle_child links hreach hmem hc, hc
    intro q hq hcq
    apply hf.parent_unique hq (hreach p hmem) hcq hc
  · rw [heq]
    intro p hm h hc
    apply hf.settle_child links hreach hm hc
  · intro h hn
    rw [heq]
    apply Links.settle_of_not_mem hn
  · rw [heq]
    obtain ⟨us, e', hcut', heq'⟩ := hf.walk_eq (links.settle t vs) stops hp
    obtain ⟨rfl, rfl⟩ := hcut.unique hcut'
    rw [heq', hf.visitsTo_eq hp hcut.initial, hf.settle_settle links hreach, hvisits]

/-- The tree of `function f() \x7b g; \x7d` and a text. -/
def functionAndText : Tree where
  nodes :=
    #[⟨.identifier, ⟨0, 0⟩, [("name", .text "f")]⟩,
      ⟨.identifier, ⟨0, 0⟩, [("name", .text "g")]⟩,
      ⟨.expressionStatement, ⟨0, 0⟩, [("expression", .node 1)]⟩,
      ⟨.blockStatement, ⟨0, 0⟩, [("body", .nodes [2])]⟩,
      ⟨.functionDeclaration, ⟨0, 0⟩, [("id", .node 0), ("params", .nodes []), ("body", .node 3)]⟩,
      ⟨.literal, ⟨1, 1⟩, [("raw", .text "1")]⟩,
      ⟨.expressionStatement, ⟨1, 1⟩, [("expression", .node 5)]⟩]
  body := [4, 6]

theorem walk_forest_functionAndText :
  functionAndText.Forest [4, 6]
    ∧ ∃ order vs, functionAndText.Covers Links.none [4, 6] (· == 1) order vs
  := by
  have hf : functionAndText.Forest [4, 6] := by
    apply forest_of_nodup
    · decide
    · decide
  use hf
  apply walk_forest hf

end Tree

end DocPages

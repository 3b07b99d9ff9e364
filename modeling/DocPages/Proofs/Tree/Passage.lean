import DocPages.Proofs.Tree.Trail

/-!
# Walks that come to their end

A walk that comes to its end has visited the preorder, whatever the tree is like; a place that is
listed twice is visited twice.  A `Passage` is a visit of a place together with the places above it
on the way there.  These are visited before it, and what lies below a place is visited after it.
-/

namespace DocPages

namespace Tree

variable {t : Tree} {hs order : List Handle}

/-! ### The order of visits -/

namespace Preorder

/-- The preorder of places and of others after them is made up of the preorders of both. -/
theorem exists_append {hs' : List Handle} (hp : t.Preorder (hs ++ hs') order) :
  ∃ us vs, order = us ++ vs ∧ t.Preorder hs us ∧ t.Preorder hs' vs
  := by
  induction hs generalizing order with
  | nil => exact ⟨[], order, rfl, Preorder.nil, hp⟩
  | cons h hs ih =>
    cases hp with
    | cons hbelow hafter =>
      obtain ⟨us, vs, rfl, hus, hvs⟩ := ih hafter
      exact ⟨_, vs, by simp, hbelow.cons hus, hvs⟩

/-- The children of a place are visited after it. -/
theorem children_after (hp : t.Preorder hs order) {before after : List Handle} {p : Handle}
    (ho : order = before ++ p :: after) :
  (t.children p).nodes ⊆ after
  := by
  induction hp generalizing before after with
  | nil => simp at ho
  | cons hbelow _ ih₁ ih₂ =>
    rcases before_or_within_or_after ho with ⟨-, rfl, rfl⟩ | ⟨us, vs, -, hvs, rfl⟩ | ⟨us, -, hus⟩
    · apply List.subset_append_of_subset_left _ hbelow.subset
    · apply List.subset_append_of_subset_left _ (ih₁ hvs)
    · apply ih₂ hus

/-- What lies below a place is visited after it. -/
theorem below_after (hp : t.Preorder hs order) {before after : List Handle} {p h : Handle}
    {k : Nat} (ho : order = before ++ p :: after) (hb : t.Below p (k + 1) h) :
  h ∈ after
  := by
  induction k generalizing h with
  | zero =>
    obtain _ | ⟨hself, hc⟩ := hb
    cases hself
    apply hp.children_after ho hc
  | succ k ih =>
    obtain _ | ⟨hq, hc⟩ := hb
    obtain ⟨us, vs, rfl⟩ := List.append_of_mem (ih hq)
    rw [← List.cons_append, ← List.append_assoc] at ho
    apply List.mem_append_right
    apply List.mem_cons_of_mem _ (hp.children_after ho hc)

end Preorder

/-! ### Passages -/

/-- A visit of a place, with the places above it on the way there, the nearest first. -/
structure Passage where
  place : Handle
  above : List Handle

/-- `t.Passages above hs ps`: the walk from the places `hs`, which lie below `above`, makes the
passages `ps`. -/
inductive Passages (t : Tree) : List Handle → List Handle → List Passage → Prop where
  | nil {above : List Handle} :
      Passages t above [] []
  | cons {above hs : List Handle} {h : Handle} {below after : List Passage} :
      Passages t (h :: above) (t.children h).nodes below → Passages t above hs after →
      Passages t above (h :: hs) (⟨h, above⟩ :: (below ++ after))

theorem Preorder.exists_passages (hp : t.Preorder hs order) (above : List Handle) :
  ∃ ps, t.Passages above hs ps ∧ ps.map Passage.place = order
  := by
  induction hp generalizing above with
  | nil => exact ⟨[], Passages.nil, rfl⟩
  | @cons h hs _ _ _ _ ih₁ ih₂ =>
    obtain ⟨ps, hps, rfl⟩ := ih₁ (h :: above)
    obtain ⟨qs, hqs, rfl⟩ := ih₂ above
    exact ⟨_, hps.cons hqs, by simp⟩

/-- The places above a passage are passed before it. -/
theorem Passages.above_before {above : List Handle} {ps before after : List Passage}
    {p : Passage} (hp : t.Passages above hs ps) (ho : ps = before ++ p :: after) :
  p.above ⊆ before.map Passage.place ++ above
  := by
  induction hp generalizing before after with
  | nil => simp at ho
  | cons _ _ ih₁ ih₂ =>
    rcases before_or_within_or_after ho
      with ⟨rfl, rfl, -⟩ | ⟨us, vs, rfl, hvs, -⟩ | ⟨us, rfl, hus⟩
    · apply List.Subset.refl
    · intro g hg
      have hmem := ih₁ hvs hg
      simp only [List.map_cons, List.cons_append, List.mem_cons, List.mem_append] at hmem ⊢
      tauto
    · intro g hg
      have hmem := ih₂ hus hg
      simp only [List.map_cons, List.map_append, List.cons_append, List.mem_cons,
        List.mem_append] at hmem ⊢
      tauto

end Tree

namespace Walk

variable {t : Tree} {stops : Handle → Bool} {links links' : Links} {w w' : Walk}

/-! ### One step -/

/-- The children of the last place have no fault, unless the walk fails. -/
theorem fault_of_next (hn : ∀ f links', w.next t stops links ≠ .failed f links') :
  ∀ s ∈ w.last, (t.children s.node).fault = none
  := by
  intro s hs
  cases hf : (t.children s.node).fault with
  | none => rfl
  | some f => exact absurd (next_of_fault stops links hs hf) (hn f _)

/-- A walk is at its end if nothing is in front of it. -/
theorem front_of_finished (hn : w.next t stops links = .finished links') :
  w.front t = []
  := by
  have hfail : ∀ f links', w.next t stops links ≠ .failed f links' := by simp [hn]
  rw [next_eq stops links (fault_of_next hfail)] at hn
  cases hfront : w.front t with
  | nil => rfl
  | cons s rest =>
    rw [hfront] at hn
    dsimp only at hn
    split at hn <;> cases hn

/-- A walk visits the first place in front of it, and goes on from there. -/
theorem front_of_visit {s : Waypoint} (hn : w.next t stops links = .visit s w' links') :
  ∃ rest, w.front t = s :: rest ∧ w' = { last := some s, pending := rest }
  := by
  have hfail : ∀ f links', w.next t stops links ≠ .failed f links' := by simp [hn]
  rw [next_eq stops links (fault_of_next hfail)] at hn
  cases hfront : w.front t with
  | nil =>
    rw [hfront] at hn
    cases hn
  | cons u rest =>
    rw [hfront] at hn
    dsimp only at hn
    split at hn
    · cases hn
    · cases hn
      exact ⟨rest, rfl, rfl⟩

/-! ### Whole walks -/

/-- The rest of a walk that comes to its end is the preorder of what is in front of it. -/
theorem preorder_of_finished {hd : ∀ s, w.last = some s → s.depth < t.size}
    (he : (w.rest t stops links hd).ending = .finished) :
  t.Preorder ((w.front t).map Waypoint.node) ((w.rest t stops links hd).visits.map Visit.node)
  := by
  fun_induction Walk.rest t stops links w hd with
  | case1 links w hd links' hn =>
    rw [front_of_finished hn]
    apply Tree.Preorder.nil
  | case2 | case3 | case5 => cases he
  | case4 links w hd s w' links' hn visit hs trail ih =>
    obtain ⟨rest, hfront, rfl⟩ := front_of_visit hn
    have hpre := ih he
    rw [map_node_front] at hpre
    obtain ⟨below, after, hvisits, hbelow, hafter⟩ := hpre.exists_append
    rw [hfront, List.map_cons, List.map_cons, hvisits]
    apply hbelow.cons hafter

end Walk

end DocPages

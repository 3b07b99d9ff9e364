import DocPages.Proofs.Tree.Planted
import DocPages.Proofs.Tree.Prototype

/-!
# Names of assigned functions

A function may be assigned to a chain of members, `p.q.r = function() {}`, or to a variable where it
is declared, or stand under some keys in an object that is, `p = {q: {r: function() {}}}`.  In a
branching tree the search for the name of such a function comes to no node twice, so it finds the
chain and then the keys.  A prototype in the chain is marked, one among the keys is not: the two
ways to define a function name it alike exactly if no prototype comes before one of the keys.
-/

namespace DocPages.Tree

open QualifiedName

variable {t : Tree} {links : Links}

/-! ### Places under a place -/

/-- `t.Under p h`: references lead from `p` to `h`. -/
inductive Under (t : Tree) (p : Handle) : Handle → Prop where
  | self :
      Under t p p
  | step {q h : Handle} :
      Under t p q → h ∈ t.referencesAt q → Under t p h

theorem Under.trans {p q h : Handle} (hq : t.Under p q) (hh : t.Under q h) :
  t.Under p h
  := by
  induction hh with
  | self => apply hq
  | step _ hm ih => apply ih.step hm

theorem Under.of_mem {p q h : Handle} (hm : q ∈ t.referencesAt p) (hh : t.Under q h) :
  t.Under p h
  := (Under.self.step hm).trans hh

theorem mem_referencesAt_of_field {p r : Handle} {n : Node} {key : String}
    (hn : t.node? p = some n) (hr : n.field key = .node r) :
  r ∈ t.referencesAt p
  := by
  rw [referencesAt, hn]
  apply (lookup_sublist n.fields key).subset
  rw [← Node.field, hr]
  apply List.mem_singleton_self

/-- References lead to a place from the body. -/
def Rooted (t : Tree) (h : Handle) : Prop :=
  ∃ r ∈ t.body, t.Under r h

theorem Rooted.of_mem {p h : Handle} (hs : t.Rooted p) (hm : h ∈ t.referencesAt p) :
  t.Rooted h
  := by
  obtain ⟨r, hr, hu⟩ := hs
  exact ⟨r, hr, hu.step hm⟩

theorem Reaches.rooted {h : Handle} (hr : t.Reaches t.body h) :
  t.Rooted h
  := by
  induction hr with
  | start hm => exact ⟨_, hm, Under.self⟩
  | child _ hc ih => apply ih.of_mem (mem_referencesAt hc)

namespace Branching

variable {p q h : Handle}

theorem nodup_references (hb : t.Branching) :
  t.references.Nodup
  := (List.nodup_append.1 hb.nodup).2.1

theorem not_mem_referencesAt (hb : t.Branching) {r : Handle} (hr : r ∈ t.body) :
  r ∉ t.referencesAt p
  := by
  intro hm
  apply (List.nodup_append.1 hb.nodup).2.2 r hr r (mem_references hm) rfl

/-- No place is under one that it refers to. -/
theorem not_under_of_mem (hb : t.Branching) (hs : t.Rooted p) (hm : h ∈ t.referencesAt p) :
  ¬ t.Under h p
  := by
  obtain ⟨r, hr, hu⟩ := hs
  -- The induction is on the way down to `p`.  A way back to `p` would come through its parent.
  induction hu generalizing h with
  | self =>
    intro hback
    cases hback with
    | self => exact hb.not_mem_referencesAt hr hm
    | step _ hm' => exact hb.not_mem_referencesAt hr hm'
  | step _ hp ih =>
    intro hback
    cases hback with
    | self =>
      have hself := eq_of_mem_referencesAt hb.nodup_references hm hp
      rw [← hself] at hp ih
      exact ih hp Under.self
    | step hback hp' =>
      rw [eq_of_mem_referencesAt hb.nodup_references hp' hp] at hback
      exact ih hp (hback.of_mem hm)

/-- What is under two references of a place is under one of them only. -/
theorem eq_of_under (hb : t.Branching) (hs : t.Rooted p) {q r : Handle}
    (hq : q ∈ t.referencesAt p) (hr : r ∈ t.referencesAt p) (huq : t.Under q h)
    (hur : t.Under r h) :
  q = r
  := by
  -- The parents of `h` are the same, seen from `q` and from `r`, until one of these is reached.
  induction huq with
  | self =>
    cases hur with
    | self => rfl
    | step hu hm =>
      rw [eq_of_mem_referencesAt hb.nodup_references hm hq] at hu
      exact absurd hu (hb.not_under_of_mem hs hr)
  | step hu hm ih =>
    cases hur with
    | self =>
      rw [eq_of_mem_referencesAt hb.nodup_references hm hr] at hu
      exact absurd hu (hb.not_under_of_mem hs hq)
    | step hu' hm' =>
      rw [eq_of_mem_referencesAt hb.nodup_references hm' hm] at hu'
      apply ih hu'

/-- Nothing is under the nodes in two fields at once. -/
theorem not_under_of_ne (hb : t.Branching) (hs : t.Rooted p) {n : Node} {key other : String}
    {q r : Handle} (hn : t.node? p = some n) (hne : key ≠ other) (hq : n.field key = .node q)
    (hr : n.field other = .node r) (hu : t.Under q h) :
  ¬ t.Under r h
  := by
  intro hur
  have hqr := hb.eq_of_under hs (mem_referencesAt_of_field hn hq) (mem_referencesAt_of_field hn hr)
    hu hur
  obtain ⟨rs, hperm, hsub⟩ := lookup_subperm n.fields hne
  have hrefs : t.referencesAt p = fieldReferences n.fields := by
    rw [referencesAt, hn]
    rfl
  have hmem := mem_referencesAt_of_field hn hq
  have hnodup : (fieldReferences n.fields).Nodup := by
    rw [← hrefs]
    apply (List.nodup_flatMap.1 hb.nodup_references).1 p (List.mem_range.2 (lt_size_of_mem hmem))
  have htwice := hperm.nodup_iff.1 (hnodup.sublist hsub)
  rw [← Node.field, ← Node.field, hq, hr, hqr] at htwice
  exact absurd htwice (by simp)

end Branching

/-! ### One step of a search -/

section Steps

variable {h : Handle} {n : Node} {depth : Nat} {seen seen₁ seen₂ : List Handle} {x s : String}

theorem nameWithin_identifier (hn : t.node? h = some n) (hk : n.kind = .identifier)
    (hs : h ∉ seen) (hf : n.field "name" = .text s) :
  t.nameWithin links (depth + 1) seen (.node h) = .ok (some s, h :: seen)
  := by
  rw [nameWithin, hn]
  dsimp only
  rw [if_neg hs, hk]
  dsimp only
  rw [hf]

theorem nameWithin_assignment (hn : t.node? h = some n) (hk : n.kind = .assignmentExpression)
    (hs : h ∉ seen) :
  t.nameWithin links (depth + 1) seen (.node h)
    = t.nameWithin links depth (h :: seen) (n.field "left")
  := by
  rw [nameWithin, hn]
  dsimp only
  rw [if_neg hs, hk]

theorem nameWithin_declarator (hn : t.node? h = some n) (hk : n.kind = .variableDeclarator)
    (hs : h ∉ seen) :
  t.nameWithin links (depth + 1) seen (.node h)
    = t.nameWithin links depth (h :: seen) (n.field "id")
  := by
  rw [nameWithin, hn]
  dsimp only
  rw [if_neg hs, hk]

/-- Objects and functions without a name of their own leave it to what is above them. -/
theorem nameWithin_parent {p : Handle} (hn : t.node? h = some n)
    (hk : n.kind = .objectExpression ∨ n.kind = .functionExpression) (hs : h ∉ seen)
    (hp : links h = some p) :
  t.nameWithin links (depth + 1) seen (.node h) = t.nameWithin links depth (h :: seen) (.node p)
  := by
  rw [nameWithin, hn]
  dsimp only
  rw [if_neg hs, hp]
  rcases hk with hk | hk <;> rw [hk] <;> rfl

theorem nameWithin_member (hn : t.node? h = some n) (hk : n.kind = .memberExpression)
    (hs : h ∉ seen)
    (ho : t.nameWithin links depth (h :: seen) (n.field "object") = .ok (some x, seen₁))
    (hq : t.nameWithin links depth seen₁ (n.field "property") = .ok (some s, seen₂)) :
  t.nameWithin links (depth + 1) seen (.node h) = .ok (some (memberName x s), seen₂)
  := by
  rw [nameWithin, hn]
  dsimp only
  rw [if_neg hs, hk]
  dsimp only
  rw [ho]
  dsimp only [bind, Except.bind]
  rw [hq]
  rfl

theorem nameWithin_property {p : Handle} (hn : t.node? h = some n) (hk : n.kind = .property)
    (hs : h ∉ seen) (hp : links h = some p)
    (ho : t.nameWithin links depth (h :: seen) (.node p) = .ok (some x, seen₁))
    (hq : t.nameWithin links depth seen₁ (n.field "key") = .ok (some s, seen₂)) :
  t.nameWithin links (depth + 1) seen (.node h) = .ok (some (x ++ "." ++ s), seen₂)
  := by
  rw [nameWithin, hn]
  dsimp only
  rw [if_neg hs, hk, hp, Option.elim_some]
  dsimp only
  rw [ho]
  dsimp only [bind, Except.bind]
  rw [hq]
  rfl

end Steps

/-! ### Searches that find a name -/

/-- A search that has been to `seen` may go as far as there are places it has not been to. -/
structure Room (t : Tree) (depth : Nat) (seen : List Handle) : Prop where
  nodup : seen.Nodup
  lt : ∀ h ∈ seen, h < t.size
  enough : t.size < depth + seen.length

theorem room_nil (t : Tree) :
  t.Room (t.size + 1) []
  := by
  constructor
  · apply List.nodup_nil
  · intro h hm
    cases hm
  · apply Nat.lt_succ_self

namespace Room

variable {depth : Nat} {seen : List Handle} {h : Handle} {n : Node}

theorem succ (hr : t.Room depth seen) :
  t.Room (depth + 1) seen
  := by
  use hr.nodup, hr.lt
  have := hr.enough
  omega

/-- There is room for one more place. -/
theorem cons (hr : t.Room depth seen) (hn : t.node? h = some n) (hs : h ∉ seen) :
  ∃ d, depth = d + 1 ∧ t.Room d (h :: seen)
  := by
  have hlt : h < t.size := (Array.getElem?_eq_some_iff.1 hn).1
  have hnodup : (h :: seen).Nodup := List.nodup_cons.2 ⟨hs, hr.nodup⟩
  have hall : ∀ x ∈ h :: seen, x < t.size := List.forall_mem_cons.2 ⟨hlt, hr.lt⟩
  have hle := (hnodup.subperm fun x hx => List.mem_range.2 (hall x hx)).length_le
  have henough := hr.enough
  rw [List.length_cons, List.length_range] at hle
  obtain ⟨d, rfl⟩ : ∃ d, depth = d + 1 := ⟨depth - 1, by omega⟩
  use d, rfl, hnodup, hall
  rw [List.length_cons]
  omega

end Room

/-- The search from `v` finds `name`, and of the places it goes to, `New` holds. -/
def Finds (t : Tree) (links : Links) (depth : Nat) (seen : List Handle) (v : FieldValue)
    (name : String) (New : Handle → Prop) : Prop :=
  ∃ seen', t.nameWithin links depth seen v = .ok (some name, seen') ∧ t.Room depth seen'
    ∧ ∀ x ∈ seen', x ∈ seen ∨ New x

/-- There is an identifier at a place. -/
def IdentifierAt (t : Tree) (h : Handle) (s : String) : Prop :=
  ∃ n, t.node? h = some n ∧ n.kind = .identifier ∧ n.field "name" = .text s

theorem IdentifierAt.finds (links : Links) {h : Handle} {s : String} (hi : t.IdentifierAt h s)
    {depth : Nat} {seen : List Handle} (hr : t.Room depth seen) (hs : h ∉ seen) :
  t.Finds links depth seen (.node h) s (· = h)
  := by
  obtain ⟨n, hn, hk, hf⟩ := hi
  obtain ⟨d, rfl, hroom⟩ := hr.cons hn hs
  use h :: seen, nameWithin_identifier hn hk hs hf, hroom.succ
  intro x hx
  rcases List.mem_cons.1 hx with rfl | hx
  · right
    rfl
  · left
    apply hx

/-! ### Chains of members -/

/-- `t.Chain ps h`: there is the chain of members `ps` at a place. -/
inductive Chain (t : Tree) : List String → Handle → Prop where
  | identifier {h : Handle} {s : String} :
      t.IdentifierAt h s → Chain t [s] h
  | member {h o q : Handle} {n : Node} {ps : List String} {s : String} :
      t.node? h = some n → n.kind = .memberExpression →
      n.field "object" = .node o → Chain t ps o →
      n.field "property" = .node q → t.IdentifierAt q s →
      Chain t (ps ++ [s]) h

/-- The name of a chain of members. -/
def chainName : List String → String
  | [] => ""
  | s :: ss => ss.foldl memberName s

theorem chainName_append {ps : List String} (hps : ps ≠ []) (ks : List String) :
  chainName (ps ++ ks) = ks.foldl memberName (chainName ps)
  := by
  cases ps with
  | nil => exact absurd rfl hps
  | cons p ps => apply List.foldl_append

theorem marked_chainName {ps : List String} (hseg : ∀ p ∈ ps, IsSegment p.toList) :
  Marked (chainName ps)
  := by
  cases ps with
  | nil => apply marked_of_isSegment (by decide)
  | cons p ps =>
    rw [List.forall_mem_cons] at hseg
    apply marked_foldl_memberName (marked_of_isSegment hseg.1) hseg.2

theorem Chain.ne_nil {ps : List String} {h : Handle} (hc : t.Chain ps h) :
  ps ≠ []
  := by
  cases hc with
  | identifier _ => apply List.cons_ne_nil
  | member _ _ _ _ _ _ => apply List.append_ne_nil_of_right_ne_nil _ (List.cons_ne_nil _ _)

/-- The search from a chain of members that it has not been to finds the name of the chain. -/
theorem Chain.finds (links : Links) (hb : t.Branching) {ps : List String} {h : Handle}
    (hc : t.Chain ps h) (hroot : t.Rooted h) {depth : Nat} {seen : List Handle}
    (hr : t.Room depth seen) (hseen : ∀ x ∈ seen, ¬ t.Under h x) :
  t.Finds links depth seen (.node h) (chainName ps) (t.Under h)
  := by
  induction hc generalizing depth seen with
  | @identifier h s hi =>
    obtain ⟨seen', hname, hroom, hnew⟩ := hi.finds links hr fun hm => hseen h hm .self
    use seen', hname, hroom
    intro x hx
    rcases hnew x hx with hx | rfl
    · left
      apply hx
    · right
      apply Under.self
  | @member h o q n ps s hn hk hobject hc hproperty hi ih =>
    have ho := mem_referencesAt_of_field hn hobject
    have hq := mem_referencesAt_of_field hn hproperty
    have hs : h ∉ seen := fun hm => hseen h hm .self
    obtain ⟨d, rfl, hroom⟩ := hr.cons hn hs
    have hseen' : ∀ x ∈ h :: seen, ¬ t.Under o x := by
      rw [List.forall_mem_cons]
      use hb.not_under_of_mem hroot ho
      intro x hx hu
      apply hseen x hx (hu.of_mem ho)
    obtain ⟨seen₁, hname₁, hroom₁, hnew₁⟩ := ih (hroot.of_mem ho) hroom hseen'
    have hq₁ : q ∉ seen₁ := by
      intro hm
      rcases hnew₁ q hm with hx | hu
      · rcases List.mem_cons.1 hx with rfl | hx
        · exact absurd Under.self (hb.not_under_of_mem hroot hq)
        · apply hseen q hx (Under.self.of_mem hq)
      · apply hb.not_under_of_ne hroot hn (by decide) hobject hproperty hu Under.self
    obtain ⟨seen₂, hname₂, hroom₂, hnew₂⟩ := hi.finds links hroom₁ hq₁
    rw [← hobject] at hname₁
    rw [← hproperty] at hname₂
    rw [chainName_append hc.ne_nil]
    use seen₂, nameWithin_member hn hk hs hname₁ hname₂, hroom₂.succ
    intro x hx
    rcases hnew₂ x hx with hx | rfl
    · rcases hnew₁ x hx with hx | hu
      · rcases List.mem_cons.1 hx with rfl | hx
        · right
          apply Under.self
        · left
          apply hx
      · right
        apply hu.of_mem ho
    · right
      apply Under.self.of_mem hq

/-! ### Names from above -/

/-- From what is above `v` a search finds `name`, wherever it has been under `v`, and it goes to no
place under `v`. -/
def NamedAbove (t : Tree) (links : Links) (v : Handle) (name : String) : Prop :=
  ∀ (depth : Nat) (seen : List Handle), t.Room depth seen → (∀ x ∈ seen, t.Under v x) →
    ∃ p, links v = some p ∧ t.Finds links depth seen (.node p) name fun x => ¬ t.Under v x

/-- A function takes the name of what is above it. -/
theorem NamedAbove.name?_eq {f : Handle} {n : Node} {name : String}
    (hf : t.NamedAbove links f name) (hn : t.node? f = some n)
    (hk : n.kind = .functionExpression) :
  t.name? links (some f) = .ok (some name)
  := by
  obtain ⟨d, hd, hroom⟩ := (room_nil t).cons hn List.not_mem_nil
  have hseen : ∀ x ∈ [f], t.Under f x := by
    intro x hx
    rw [List.mem_singleton.1 hx]
    apply Under.self
  obtain ⟨p, hparent, seen, hname, -⟩ := hf d [f] hroom hseen
  rw [name?, Option.elim_some, hd, nameWithin_parent hn (.inr hk) List.not_mem_nil hparent, hname]
  rfl

/-- If the name of the node above `v` is that of a chain in another field than `v`, it is found. -/
theorem Chain.namedAbove (hb : t.Branching) {ps : List String} {p l v : Handle} {n : Node}
    {key other : String} (hroot : t.Rooted p) (hn : t.node? p = some n) (hl : n.field key = .node l)
    (hc : t.Chain ps l) (hv : n.field other = .node v) (hne : other ≠ key)
    (hlink : links v = some p)
    (hstep : ∀ {depth : Nat} {seen : List Handle}, p ∉ seen →
      t.nameWithin links (depth + 1) seen (.node p)
        = t.nameWithin links depth (p :: seen) (n.field key)) :
  t.NamedAbove links v (chainName ps)
  := by
  intro depth seen hr hseen
  use p, hlink
  have hvp := mem_referencesAt_of_field hn hv
  have hlp := mem_referencesAt_of_field hn hl
  have hs : p ∉ seen := fun hm => hb.not_under_of_mem hroot hvp (hseen p hm)
  obtain ⟨d, rfl, hroom⟩ := hr.cons hn hs
  have hapart : ∀ x, t.Under v x → ¬ t.Under l x :=
    fun x hu => hb.not_under_of_ne hroot hn hne hv hl hu
  have hseen' : ∀ x ∈ p :: seen, ¬ t.Under l x := by
    rw [List.forall_mem_cons]
    use hb.not_under_of_mem hroot hlp
    intro x hx
    apply hapart x (hseen x hx)
  obtain ⟨seen', hname, hroom', hnew⟩ := hc.finds links hb (hroot.of_mem hlp) hroom hseen'
  rw [← hl, ← hstep hs] at hname
  use seen', hname, hroom'.succ
  intro x hx
  rcases hnew x hx with hx | hu
  · rcases List.mem_cons.1 hx with rfl | hx
    · right
      apply hb.not_under_of_mem hroot hvp
    · left
      apply hx
  · right
    intro huv
    apply hapart x huv hu

/-! ### Keys of objects -/

/-- `t.Entry o p s v`: there is an object at `o`, and its property `p` has the key `s` and the value
`v`. -/
structure Entry (t : Tree) (o p : Handle) (s : String) (v : Handle) : Prop where
  object : ∃ m, t.node? o = some m ∧ m.kind = .objectExpression
  mem_children : p ∈ (t.children o).nodes
  property : ∃ n k, t.node? p = some n ∧ n.kind = .property ∧ n.field "key" = .node k
    ∧ t.IdentifierAt k s ∧ n.field "value" = .node v

namespace Entry

variable {o p v : Handle} {s : String}

theorem mem_children_value (he : t.Entry o p s v) :
  v ∈ (t.children p).nodes
  := by
  obtain ⟨n, k, hn, hk, hkey, -, hv⟩ := he.property
  simp [children, hn, childrenOf, hk, Children.single, hkey, hv, Children.ofItems]

/-- A value has the name of its object followed by its key. -/
theorem namedAbove (hb : t.Branching) (he : t.Entry o p s v) (hroot : t.Rooted o)
    (hlinkp : links p = some o) (hlinkv : links v = some p) {name : String}
    (ho : t.NamedAbove links o name) :
  t.NamedAbove links v (name ++ "." ++ s)
  := by
  obtain ⟨m, hm, hobject⟩ := he.object
  obtain ⟨n, k, hn, hkind, hkey, hi, hv⟩ := he.property
  intro depth seen hr hseen
  have hpo := mem_referencesAt he.mem_children
  have hrootp := hroot.of_mem hpo
  have hvp := mem_referencesAt_of_field hn hv
  have hkp := mem_referencesAt_of_field hn hkey
  use p, hlinkv
  -- The search goes to the property, to its object, to what is above that and back to the key.
  have hs : p ∉ seen := fun hx => hb.not_under_of_mem hrootp hvp (hseen p hx)
  obtain ⟨d, rfl, hroom⟩ := hr.cons hn hs
  have hvo : ∀ x, t.Under v x → t.Under o x := fun x hu => (hu.of_mem hvp).of_mem hpo
  have hso : o ∉ p :: seen := by
    intro hx
    rcases List.mem_cons.1 hx with rfl | hx
    · exact hb.not_under_of_mem hroot hpo Under.self
    · exact hb.not_under_of_mem hroot hpo ((hseen o hx).of_mem hvp)
  obtain ⟨d, rfl, hroom'⟩ := hroom.cons hm hso
  have hseen' : ∀ x ∈ o :: p :: seen, t.Under o x := by
    rw [List.forall_mem_cons, List.forall_mem_cons]
    use Under.self, Under.self.of_mem hpo
    intro x hx
    apply hvo x (hseen x hx)
  obtain ⟨q, hq, seen₁, hname₁, hroom₁, hnew₁⟩ := ho _ _ hroom' hseen'
  have hunder : ∀ x ∈ seen₁, t.Under p x → x = p ∨ x ∈ seen := by
    intro x hx hu
    rcases hnew₁ x hx with hx | hnot
    · rcases List.mem_cons.1 hx with rfl | hx
      · exact absurd hu (hb.not_under_of_mem hroot hpo)
      · apply List.mem_cons.1 hx
    · exact absurd (hu.of_mem hpo) hnot
  have hk₁ : k ∉ seen₁ := by
    intro hx
    rcases hunder k hx (Under.self.of_mem hkp) with rfl | hx
    · exact hb.not_under_of_mem hrootp hkp Under.self
    · exact hb.not_under_of_ne hrootp hn (by decide) hkey hv Under.self (hseen k hx)
  obtain ⟨seen₂, hname₂, hroom₂, hnew₂⟩ := hi.finds links hroom₁.succ hk₁
  rw [← nameWithin_parent hm (.inl hobject) hso hq] at hname₁
  rw [← hkey] at hname₂
  use seen₂, nameWithin_property hn hkind hs hlinkp hname₁ hname₂, hroom₂.succ
  intro x hx
  by_cases hu : t.Under v x
  · left
    rcases hnew₂ x hx with hx | rfl
    · rcases hunder x hx (hu.of_mem hvp) with rfl | hx
      · exact absurd hu (hb.not_under_of_mem hrootp hvp)
      · apply hx
    · exact absurd hu (hb.not_under_of_ne hrootp hn (by decide) hkey hv Under.self)
  · right
    apply hu

end Entry

/-- `t.Nested u ks v`: the value `v` is `u` itself if there are no keys, or else it stands under the
keys `ks`, one in the object under the other. -/
inductive Nested (t : Tree) (u : Handle) : List String → Handle → Prop where
  | self :
      Nested t u [] u
  | key {ks : List String} {s : String} {o p v : Handle} :
      Nested t u ks o → t.Entry o p s v → Nested t u (ks ++ [s]) v

namespace Nested

variable {u v : Handle} {ks : List String}

theorem reaches (hk : t.Nested u ks v) (hu : t.Reaches t.body u) :
  t.Reaches t.body v
  := by
  induction hk with
  | self => apply hu
  | key _ he ih => apply (ih.child he.mem_children).child he.mem_children_value

/-- The keys are added to the name, one after the other. -/
theorem namedAbove (hb : t.Branching)
    (hlinks : ∀ {p h}, t.Reaches t.body p → h ∈ (t.children p).nodes → links h = some p)
    (hk : t.Nested u ks v) (hr : t.Reaches t.body u) {name : String}
    (hu : t.NamedAbove links u name) :
  t.NamedAbove links v (keyedName name ks)
  := by
  induction hk with
  | self => apply hu
  | key ho he ih =>
    have hreach := ho.reaches hr
    rw [keyedName, List.foldl_append, ← keyedName]
    apply he.namedAbove hb hreach.rooted
    · apply hlinks hreach he.mem_children
    · apply hlinks (hreach.child he.mem_children) he.mem_children_value
    · apply ih

end Nested

/-! ### What values are bound to -/

/-- `t.Binds ps v`: the program assigns `v` to the chain of members `ps`, or declares a variable
with the value `v`. -/
inductive Binds (t : Tree) : List String → Handle → Prop where
  | assignment {ps : List String} {a l v : Handle} {n : Node} :
      t.Reaches t.body a → t.node? a = some n → n.kind = .assignmentExpression →
      n.field "left" = .node l → t.Chain ps l → n.field "right" = .node v →
      Binds t ps v
  | declarator {s : String} {d i v : Handle} {n : Node} :
      t.Reaches t.body d → t.node? d = some n → n.kind = .variableDeclarator →
      n.field "id" = .node i → t.IdentifierAt i s → n.field "init" = .node v →
      Binds t [s] v

theorem mem_children_of_single {p v : Handle} {n : Node} {key : String} (hn : t.node? p = some n)
    (hc : t.childrenOf p n = .ofItems (Children.single n key)) (hv : n.field key = .node v) :
  v ∈ (t.children p).nodes
  := by
  simp [children, hn, hc, Children.single, hv, Children.ofItems]

theorem mem_children_right {a v : Handle} {n : Node} (hn : t.node? a = some n)
    (hk : n.kind = .assignmentExpression) (hv : n.field "right" = .node v) :
  v ∈ (t.children a).nodes
  := mem_children_of_single hn (by rw [childrenOf, hk]) hv

theorem mem_children_init {d v : Handle} {n : Node} (hn : t.node? d = some n)
    (hk : n.kind = .variableDeclarator) (hv : n.field "init" = .node v) :
  v ∈ (t.children d).nodes
  := mem_children_of_single hn (by rw [childrenOf, hk]) hv

namespace Binds

variable {ps ks : List String} {u f : Handle} {n : Node}

theorem reaches (hu : t.Binds ps u) :
  t.Reaches t.body u
  := by
  cases hu with
  | assignment hr hn hk _ _ hv => apply hr.child (mem_children_right hn hk hv)
  | declarator hr hn hk _ _ hv => apply hr.child (mem_children_init hn hk hv)

/-- A value has the name of the chain that it is bound to. -/
theorem namedAbove (hb : t.Branching)
    (hlinks : ∀ {p h}, t.Reaches t.body p → h ∈ (t.children p).nodes → links h = some p)
    (hu : t.Binds ps u) :
  t.NamedAbove links u (chainName ps)
  := by
  cases hu with
  | assignment hr hn hk hl hc hv =>
    apply hc.namedAbove hb hr.rooted hn hl hv (by decide)
    · apply hlinks hr (mem_children_right hn hk hv)
    · intro depth seen hs
      apply nameWithin_assignment hn hk hs
  | declarator hr hn hk hi hname hv =>
    apply (Chain.identifier hname).namedAbove hb hr.rooted hn hi hv (by decide)
    · apply hlinks hr (mem_children_init hn hk hv)
    · intro depth seen hs
      apply nameWithin_declarator hn hk hs

/-- A function is named by the chain that a value is bound to and the keys that it stands under. -/
theorem name?_eq (hb : t.Branching) (he : (t.walkBody links).ending = .finished)
    (hu : t.Binds ps u) (hk : t.Nested u ks f) (hn : t.node? f = some n)
    (hf : n.kind = .functionExpression) :
  t.name? (t.walkBody links).links (some f) = .ok (some (keyedName (chainName ps) ks))
  := by
  have hlinks : ∀ {p h}, t.Reaches t.body p → h ∈ (t.children p).nodes →
      (t.walkBody links).links h = some p :=
    fun hr hc => hb.forest.links_eq he hr hc
  have habove := hk.namedAbove hb hlinks hu.reaches (hu.namedAbove hb hlinks)
  apply habove.name?_eq hn hf

end Binds

/-! ### Two ways to define a function -/

/-- `t.Keyed a ks v`: the assignment at `a` is of `v` itself if there are no keys, or else of an
object in which `v` stands under the keys `ks`, one in the object under the other. -/
inductive Keyed (t : Tree) (a : Handle) : List String → Handle → Prop where
  | right {v : Handle} {n : Node} :
      t.node? a = some n → n.kind = .assignmentExpression → n.field "right" = .node v →
      Keyed t a [] v
  | key {ks : List String} {s : String} {o p k v : Handle} {m n : Node} :
      Keyed t a ks o → t.node? o = some m → m.kind = .objectExpression →
      p ∈ (t.children o).nodes → t.node? p = some n → n.kind = .property →
      n.field "key" = .node k → t.IdentifierAt k s → n.field "value" = .node v →
      Keyed t a (ks ++ [s]) v

theorem Keyed.exists_nested {a v : Handle} {ks : List String} (hk : t.Keyed a ks v) :
  ∃ n u, t.node? a = some n ∧ n.kind = .assignmentExpression ∧ n.field "right" = .node u
    ∧ t.Nested u ks v
  := by
  induction hk with
  | right hn hkind hv => exact ⟨_, _, hn, hkind, hv, .self⟩
  | key _ hm hobject hmem hn hkind hkey hi hv ih =>
    obtain ⟨n, u, hna, hkinda, hu, hnested⟩ := ih
    exact ⟨n, u, hna, hkinda, hu, hnested.key
      ⟨⟨_, hm, hobject⟩, hmem, _, _, hn, hkind, hkey, hi, hv⟩⟩

/-- `t.Defines ps ks f`: the program has a function `f` under the keys `ks` of what it assigns to
the chain of members `ps`. -/
structure Defines (t : Tree) (ps ks : List String) (f : Handle) : Prop where
  assignment : ∃ a n l, t.Reaches t.body a ∧ t.node? a = some n ∧ n.field "left" = .node l
    ∧ t.Chain ps l ∧ t.Keyed a ks f
  function : ∃ n, t.node? f = some n ∧ n.kind = .functionExpression

/-- A function is named by the chain that it is assigned to and the keys that it stands under. -/
theorem Defines.name?_eq (hp : t.Planted)
    (he : (t.walkBody Links.none).ending = .finished) {ps ks : List String} {f : Handle}
    (hd : t.Defines ps ks f) :
  t.name? (t.walkBody Links.none).links (some f) = .ok (some (keyedName (chainName ps) ks))
  := by
  obtain ⟨⟨a, n, l, ha, hn, hl, hc, hkeyed⟩, m, hm, hkind⟩ := hd
  obtain ⟨n', u, hn', hk, hu, hnested⟩ := hkeyed.exists_nested
  cases hn.symm.trans hn'
  have hbinds : t.Binds ps u := .assignment ha hn hk hl hc hu
  apply hbinds.name?_eq hp.branching he hnested hm hkind

/-- A function under the keys `ks` of an object that is assigned to the chain `ps`, and one that
is assigned to the chain with the keys added, have the same name exactly if no prototype comes
before a key: the chain does not end in one that is not marked yet, and none of the keys but the
last is one. -/
theorem name?_keyed_eq_name?_chain_iff {u : Tree} (ht : t.Planted) (hu : u.Planted)
    (het : (t.walkBody Links.none).ending = .finished)
    (heu : (u.walkBody Links.none).ending = .finished) {ps ks : List String} {f g : Handle}
    (hps : ∀ p ∈ ps, IsSegment p.toList) (hks : ∀ k ∈ ks, IsSegment k.toList) (hne : ks ≠ [])
    (hf : t.Defines ps ks f) (hg : u.Defines (ps ++ ks) [] g) :
  ∃ x y, t.name? (t.walkBody Links.none).links (some f) = .ok (some x)
    ∧ u.name? (u.walkBody Links.none).links (some g) = .ok (some y)
    ∧ (x = y ↔ ¬ EndsInPrototype (chainName ps) ∧ "prototype" ∉ ks.dropLast)
  := by
  have hnil : ps ≠ [] := by
    obtain ⟨_, _, _, _, _, _, hc, _⟩ := hf.assignment
    apply hc.ne_nil
  use keyedName (chainName ps) ks, chainName (ps ++ ks), hf.name?_eq ht het, hg.name?_eq hu heu
  rw [chainName_append hnil, eq_comm, foldl_memberName_eq_keyedName_iff (marked_chainName hps) hks]
  simp [hne]

/-! ### A member of a prototype -/

/-- The tree of `Foo.prototype = {bar: function() {}}`. -/
def keyedPrototype : Tree where
  nodes :=
    #[⟨.identifier, ⟨0, 0⟩, [("name", .text "Foo")]⟩,
      ⟨.identifier, ⟨0, 0⟩, [("name", .text "prototype")]⟩,
      ⟨.memberExpression, ⟨0, 0⟩, [("object", .node 0), ("property", .node 1)]⟩,
      ⟨.identifier, ⟨0, 0⟩, [("name", .text "bar")]⟩,
      ⟨.blockStatement, ⟨0, 0⟩, [("body", .nodes [])]⟩,
      ⟨.functionExpression, ⟨0, 0⟩, [("id", .nothing), ("params", .nodes []), ("body", .node 4)]⟩,
      ⟨.property, ⟨0, 0⟩, [("key", .node 3), ("value", .node 5)]⟩,
      ⟨.objectExpression, ⟨0, 0⟩, [("properties", .nodes [6])]⟩,
      ⟨.assignmentExpression, ⟨0, 0⟩, [("left", .node 2), ("right", .node 7)]⟩,
      ⟨.expressionStatement, ⟨0, 0⟩, [("expression", .node 8)]⟩]
  body := [9]

/-- The tree of `Foo.prototype.bar = function() {}`. -/
def chainPrototype : Tree where
  nodes :=
    #[⟨.identifier, ⟨0, 0⟩, [("name", .text "Foo")]⟩,
      ⟨.identifier, ⟨0, 0⟩, [("name", .text "prototype")]⟩,
      ⟨.memberExpression, ⟨0, 0⟩, [("object", .node 0), ("property", .node 1)]⟩,
      ⟨.identifier, ⟨0, 0⟩, [("name", .text "bar")]⟩,
      ⟨.memberExpression, ⟨0, 0⟩, [("object", .node 2), ("property", .node 3)]⟩,
      ⟨.blockStatement, ⟨0, 0⟩, [("body", .nodes [])]⟩,
      ⟨.functionExpression, ⟨0, 0⟩, [("id", .nothing), ("params", .nodes []), ("body", .node 5)]⟩,
      ⟨.assignmentExpression, ⟨0, 0⟩, [("left", .node 4), ("right", .node 6)]⟩,
      ⟨.expressionStatement, ⟨0, 0⟩, [("expression", .node 7)]⟩]
  body := [8]

theorem planted_keyedPrototype :
  keyedPrototype.Planted
  := planted_of_lt_size (by decide) (by decide)

theorem planted_chainPrototype :
  chainPrototype.Planted
  := planted_of_lt_size (by decide) (by decide)

theorem finished_keyedPrototype :
  (keyedPrototype.walkBody Links.none).ending = .finished
  := by
  apply planted_keyedPrototype.forest.finished_of_closed Links.none [9, 8, 7, 6, 3, 5, 4]
  · decide
  · decide

theorem finished_chainPrototype :
  (chainPrototype.walkBody Links.none).ending = .finished
  := by
  apply planted_chainPrototype.forest.finished_of_closed Links.none [8, 7, 6, 5]
  · decide
  · decide

theorem chain_fooPrototype {t : Tree} (h₀ : t.IdentifierAt 0 "Foo")
    (h₁ : t.IdentifierAt 1 "prototype")
    (h₂ : t.node? 2
      = some ⟨.memberExpression, ⟨0, 0⟩, [("object", .node 0), ("property", .node 1)]⟩) :
  t.Chain ["Foo", "prototype"] 2
  := .member h₂ rfl rfl (.identifier h₀) rfl h₁

theorem defines_keyedPrototype :
  keyedPrototype.Defines ["Foo", "prototype"] ["bar"] 5
  := by
  have hchain := chain_fooPrototype (t := keyedPrototype) ⟨_, rfl, rfl, rfl⟩ ⟨_, rfl, rfl, rfl⟩ rfl
  have hobject : keyedPrototype.Keyed 8 [] 7 := .right rfl rfl rfl
  have hbar : keyedPrototype.Keyed 8 ["bar"] 5 :=
    hobject.key (p := 6) rfl rfl (by decide) rfl rfl rfl ⟨_, rfl, rfl, rfl⟩ rfl
  have hreach : keyedPrototype.Reaches keyedPrototype.body 8 :=
    (Reaches.start (h := 9) (by decide)).child (by decide)
  constructor
  · exact ⟨8, _, 2, hreach, rfl, rfl, hchain, hbar⟩
  · exact ⟨_, rfl, rfl⟩

theorem defines_chainPrototype :
  chainPrototype.Defines ["Foo", "prototype", "bar"] [] 6
  := by
  have hchain := chain_fooPrototype (t := chainPrototype) ⟨_, rfl, rfl, rfl⟩ ⟨_, rfl, rfl, rfl⟩ rfl
  have hbar : chainPrototype.Chain ["Foo", "prototype", "bar"] 4 :=
    .member rfl rfl rfl hchain rfl ⟨_, rfl, rfl, rfl⟩
  have hreach : chainPrototype.Reaches chainPrototype.body 7 :=
    (Reaches.start (h := 8) (by decide)).child (by decide)
  constructor
  · exact ⟨7, _, 4, hreach, rfl, rfl, hbar, .right rfl rfl rfl⟩
  · exact ⟨_, rfl, rfl⟩

theorem name?_keyed_eq_name?_chain_iff_fooPrototype :
  keyedPrototype.Planted ∧ chainPrototype.Planted
    ∧ (keyedPrototype.walkBody Links.none).ending = .finished
    ∧ (chainPrototype.walkBody Links.none).ending = .finished
    ∧ keyedPrototype.Defines ["Foo", "prototype"] ["bar"] 5
    ∧ chainPrototype.Defines ["Foo", "prototype", "bar"] [] 6
    ∧ ∃ x y, keyedPrototype.name? (keyedPrototype.walkBody Links.none).links (some 5)
        = .ok (some x)
      ∧ chainPrototype.name? (chainPrototype.walkBody Links.none).links (some 6) = .ok (some y)
      ∧ (x = y ↔ ¬ EndsInPrototype "Foo.prototype" ∧ "prototype" ∉ ["bar"].dropLast)
  := by
  use planted_keyedPrototype, planted_chainPrototype, finished_keyedPrototype,
    finished_chainPrototype, defines_keyedPrototype, defines_chainPrototype
  have hname : chainName ["Foo", "prototype"] = "Foo.prototype" := by decide
  rw [← hname]
  apply name?_keyed_eq_name?_chain_iff planted_keyedPrototype planted_chainPrototype
    finished_keyedPrototype finished_chainPrototype (by decide) (by decide) (by decide)
    defines_keyedPrototype defines_chainPrototype

/-- The member is an instance member in one definition and a static one in the other. -/
theorem name?_fooPrototype_ne :
  keyedPrototype.name? (keyedPrototype.walkBody Links.none).links (some 5)
      = .ok (some "Foo.prototype.bar")
    ∧ chainPrototype.name? (chainPrototype.walkBody Links.none).links (some 6)
      = .ok (some "Foo#bar")
    ∧ (parse "Foo.prototype.bar").isStatic = true ∧ (parse "Foo#bar").isStatic = false
  := by
  have hkeyed : keyedName (chainName ["Foo", "prototype"]) ["bar"] = "Foo.prototype.bar" := by
    decide
  have hchain : chainName ["Foo", "prototype", "bar"] = "Foo#bar" := by decide
  rw [defines_keyedPrototype.name?_eq planted_keyedPrototype finished_keyedPrototype,
    defines_chainPrototype.name?_eq planted_chainPrototype finished_chainPrototype, hkeyed]
  use rfl
  constructor
  · rw [keyedName, List.foldl_nil, hchain]
  · decide

end DocPages.Tree

import DocPages.Proofs.Concrete.Sound

/-!
# Syntax trees are forests

The tree of a source text refers to each of its places once, from the body or from a place further
on.  A walk from its body ends, with every place visited once, unless it comes to a node of unknown
kind, and the links that it leaves lead to places further on.
-/

namespace DocPages

namespace Sketch

variable {source : List Char}

/-! ### Laying out ends well -/

mutual

/-- A sketch whose texts are in the source can be laid out. -/
theorem exists_layOut? {s : Sketch} (h : AllSound (Cuts source) s) (t : Tree) :
  ∃ t', layOut? source s t = some t'
  := by
  cases s with
  | node kind extent fields =>
    obtain ⟨r, hr⟩ := exists_layOutFields? (fun f hf => h.holds hf) t
    rw [layOut?, hr]
    exact ⟨_, rfl⟩
termination_by structural s

theorem exists_layOutAll? {ss : List Sketch} (h : ∀ s ∈ ss, AllSound (Cuts source) s) (t : Tree) :
  ∃ r, layOutAll? source ss t = some r
  := by
  cases ss with
  | nil => exact ⟨_, rfl⟩
  | cons s ss =>
    rw [List.forall_mem_cons] at h
    obtain ⟨t', ht'⟩ := exists_layOut? h.1 t
    obtain ⟨r, hr⟩ := exists_layOutAll? h.2 t'
    rw [layOutAll?, ht', Option.bind_some, hr]
    exact ⟨_, rfl⟩
termination_by structural ss

theorem exists_layOutFields? {fields : List (String × SketchField)}
    (h : ∀ f ∈ fields, Holds (Cuts source) f.2) (t : Tree) :
  ∃ r, layOutFields? source fields t = some r
  := by
  cases fields with
  | nil => exact ⟨_, rfl⟩
  | cons f fields =>
    rw [List.forall_mem_cons] at h
    obtain ⟨⟨g, t'⟩, hg⟩ := exists_layOutKeyed? h.1 t
    obtain ⟨r, hr⟩ := exists_layOutFields? h.2 t'
    rw [layOutFields?, hg, Option.bind_some]
    dsimp only
    rw [hr]
    exact ⟨_, rfl⟩
termination_by structural fields

theorem exists_layOutKeyed? {f : String × SketchField} (h : Holds (Cuts source) f.2) (t : Tree) :
  ∃ r, layOutKeyed? source f t = some r
  := by
  cases f with
  | mk key v =>
    obtain ⟨r, hr⟩ := exists_layOutField? h t
    rw [layOutKeyed?, hr]
    exact ⟨_, rfl⟩
termination_by structural f

theorem exists_layOutField? {v : SketchField} (h : Holds (Cuts source) v) (t : Tree) :
  ∃ r, layOutField? source v t = some r
  := by
  cases v with
  | nothing => exact ⟨_, rfl⟩
  | one s =>
    obtain ⟨t', ht'⟩ := exists_layOut? (h.sketches s List.mem_cons_self) t
    rw [layOutField?, ht']
    exact ⟨_, rfl⟩
  | many ss =>
    have hss : ∀ s ∈ ss, AllSound (Cuts source) s := h.sketches
    obtain ⟨r, hr⟩ := exists_layOutAll? hss t
    rw [layOutField?, hr]
    exact ⟨_, rfl⟩
  | span start stop =>
    obtain ⟨cs, hcs⟩ := Option.isSome_iff_exists.1 (h.span start stop rfl)
    rw [layOutField?, hcs]
    exact ⟨_, rfl⟩
termination_by structural v

end

/-! ### What stands at the places that are referred to -/

variable {t : Tree}

theorem AllAt.exists_of_mem {ss : List Sketch} {hs : List Handle} (h : AllAt source t ss hs)
    {r : Handle} (hr : r ∈ hs) :
  ∃ s ∈ ss, s.At source t r
  := by
  induction ss generalizing hs with
  | nil =>
    rw [AllAt] at h
    rw [h] at hr
    cases hr
  | cons s ss ih =>
    rw [AllAt] at h
    obtain ⟨h₁, hs', rfl, hat, hall⟩ := h
    cases hr with
    | head => exact ⟨s, List.mem_cons_self, hat⟩
    | tail _ hr =>
      obtain ⟨s', hs', hat'⟩ := ih hall hr
      exact ⟨s', List.mem_cons_of_mem _ hs', hat'⟩

theorem FieldAt.exists_of_mem {v : SketchField} {w : FieldValue} (h : FieldAt source t v w)
    {r : Handle} (hr : r ∈ w.references) :
  ∃ s ∈ v.sketches, s.At source t r
  := by
  cases v with
  | nothing =>
    rw [FieldAt] at h
    rw [h] at hr
    cases hr
  | one s =>
    rw [FieldAt] at h
    obtain ⟨x, rfl, hat⟩ := h
    cases List.mem_singleton.1 hr
    exact ⟨s, List.mem_cons_self, hat⟩
  | many ss =>
    rw [FieldAt] at h
    obtain ⟨hs, rfl, hall⟩ := h
    rw [FieldValue.references_nodes] at hr
    apply hall.exists_of_mem hr
  | span start stop =>
    rw [FieldAt] at h
    obtain ⟨cs, -, rfl⟩ := h
    cases hr

theorem FieldsAt.exists_of_mem {fields : List (String × SketchField)}
    {fs : List (String × FieldValue)} (h : FieldsAt source t fields fs) {r : Handle}
    (hr : r ∈ fieldReferences fs) :
  ∃ f ∈ fields, ∃ s ∈ f.2.sketches, s.At source t r
  := by
  induction fields generalizing fs with
  | nil =>
    rw [FieldsAt] at h
    rw [h] at hr
    cases hr
  | cons f fields ih =>
    rw [FieldsAt] at h
    obtain ⟨g, fs', rfl, hkey, hfields⟩ := h
    rw [fieldReferences, List.flatMap_cons] at hr
    rcases List.mem_append.1 hr with hr | hr
    · rw [KeyedAt] at hkey
      exact ⟨f, List.mem_cons_self, hkey.2.exists_of_mem hr⟩
    · obtain ⟨f', hf', hs⟩ := ih hfields hr
      exact ⟨f', List.mem_cons_of_mem _ hf', hs⟩

/-- A field of a node holds what the field of the sketch does. -/
theorem FieldsAt.lookup {fields : List (String × SketchField)} {fs : List (String × FieldValue)}
    (h : FieldsAt source t fields fs) (key : String) :
  FieldAt source t (fieldIn fields key) ((fs.lookup key).getD .nothing)
  := by
  induction fields generalizing fs with
  | nil =>
    rw [FieldsAt] at h
    rw [h]
    rfl
  | cons f fields ih =>
    rw [FieldsAt] at h
    obtain ⟨g, fs', rfl, hkey, hfields⟩ := h
    rw [KeyedAt] at hkey
    rw [fieldIn, List.lookup_cons, List.lookup_cons, hkey.1]
    by_cases hk : key = f.1
    · rw [hk, beq_self_eq_true]
      apply hkey.2
    · rw [beq_false_of_ne hk]
      apply ih hfields

/-- A sound sketch stands at the place. -/
def Stands (source : List Char) (t : Tree) (h : Handle) : Prop :=
  ∃ s, AllSound (fun _ _ => True) s ∧ s.At source t h

/-- Sound sketches stand at all places that a place with one refers to. -/
theorem Stands.of_mem {h r : Handle} (hs : Stands source t h) (hr : r ∈ t.referencesAt h) :
  Stands source t r
  := by
  obtain ⟨⟨kind, extent, fields⟩, hsound, hat⟩ := hs
  rw [At] at hat
  obtain ⟨fs, hnode, hfields⟩ := hat
  rw [Tree.referencesAt, hnode] at hr
  obtain ⟨f, hf, s, hs, hat⟩ := hfields.exists_of_mem hr
  exact ⟨s, (hsound.holds hf).sketches s hs, hat⟩

theorem Stands.of_reaches {roots : List Handle} (hroots : ∀ h ∈ roots, Stands source t h)
    {h : Handle} (hr : t.Reaches roots h) :
  Stands source t h
  := by
  induction hr with
  | start hmem => apply hroots _ hmem
  | child _ hc ih => apply ih.of_mem (Tree.mem_referencesAt hc)

theorem FieldAt.isSingle {v : SketchField} {w : FieldValue} (h : FieldAt source t v w)
    (hv : v.isSingle) :
  w.IsSingle
  := by
  cases v with
  | nothing =>
    rw [FieldAt] at h
    left
    apply h
  | one s =>
    rw [FieldAt] at h
    obtain ⟨x, rfl, -⟩ := h
    right
    exact ⟨x, rfl⟩
  | many _ | span _ _ => cases hv

theorem FieldAt.isMany {v : SketchField} {w : FieldValue} (h : FieldAt source t v w)
    (hv : v.isMany) :
  w.IsMany
  := by
  cases v with
  | nothing =>
    rw [FieldAt] at h
    left
    apply h
  | many ss =>
    rw [FieldAt] at h
    obtain ⟨hs, rfl, -⟩ := h
    right
    exact ⟨hs, rfl⟩
  | one _ | span _ _ => cases hv

/-- A walk finds no other fault than an unknown kind where a sound sketch stands. -/
theorem Stands.wellPlaced {h : Handle} (hs : Stands source t h) :
  (t.children h).WellPlaced h
  := by
  obtain ⟨⟨kind, extent, fields⟩, hsound, hat⟩ := hs
  rw [At] at hat
  obtain ⟨fs, hnode, hfields⟩ := hat
  rw [Tree.children, hnode]
  cases hsound with
  | node hsound _ =>
    apply Tree.wellPlaced_childrenOf
    · intro key hkey
      apply (hfields.lookup key).isSingle (hsound.single key hkey)
    · intro key hkey
      apply (hfields.lookup key).isMany (hsound.many key hkey)

end Sketch

/-! ### Trees of sources -/

namespace Concrete

mutual

theorem commentLabels_subset (c : Concrete) :
  c.commentLabels ⊆ c.labels
  := by
  cases c with
  | node l cs =>
    rw [commentLabels, labels]
    split
    · apply List.cons_subset_cons _ (List.nil_subset _)
    · apply List.subset_cons_of_subset _ (commentLabelsIn_subset cs)
termination_by structural c

theorem commentLabelsIn_subset (cs : List Concrete) :
  commentLabelsIn cs ⊆ labelsIn cs
  := by
  cases cs with
  | nil => apply List.nil_subset
  | cons c cs =>
    rw [commentLabelsIn, labelsIn]
    apply List.append_subset.2
    constructor
    · apply List.subset_append_of_subset_left _ (commentLabels_subset c)
    · apply List.subset_append_of_subset_right _ (commentLabelsIn_subset cs)
termination_by structural cs

end

theorem exists_comments? {source : List Char} {c : Concrete} (h : c.Fits source) :
  ∃ comments, c.comments? source = some comments
  := by
  have hall : ∀ ls : List Label, ls ⊆ c.labels →
      ∃ comments, ls.mapM (Comment.ofLabel? source) = some comments := by
    intro ls hls
    induction ls with
    | nil => exact ⟨[], rfl⟩
    | cons l ls ih =>
      obtain ⟨hl, hls⟩ := List.cons_subset.1 hls
      obtain ⟨cs, hcs⟩ := Option.isSome_iff_exists.1 (h l hl)
      obtain ⟨comments, hcomments⟩ := ih hls
      rw [List.mapM_cons, Comment.ofLabel?, hcs, hcomments]
      exact ⟨_, rfl⟩
  apply hall _ (commentLabels_subset c)

/-- The tree of a source is laid out from what is made of the statements, and it has the comments of
the source. -/
theorem layOutAll?_of_toTree {source : String} {root : Concrete} {t : Tree}
    (h : toTree source false root = .ok t) :
  ∃ t₀, Sketch.layOutAll? source.toList root.part.inner {} = some (t.body, t₀)
    ∧ t.nodes = t₀.nodes ∧ root.comments? source.toList = some t.comments
  := by
  rw [toTree, if_neg Bool.false_ne_true] at h
  dsimp only at h
  split at h
  · cases h
  · rename_i body t₀ hlay
    split at h
    · cases h
    · rename_i comments hcomments
      cases h
      exact ⟨t₀, hlay, rfl, hcomments⟩

theorem exists_of_toTree {source : String} {root : Concrete} {t : Tree}
    (h : toTree source false root = .ok t) :
  ∃ body t₀ comments, Sketch.layOutAll? source.toList root.part.inner {} = some (body, t₀)
    ∧ t = { t₀ with body, comments }
  := by
  obtain ⟨t₀, hlay, hnodes, -⟩ := layOutAll?_of_toTree h
  refine ⟨t.body, t₀, t.comments, hlay, ?_⟩
  rw [← hnodes]

/-- If every node lies between characters of the source, there is a tree. -/
theorem exists_toTree {source : String} {root : Concrete} (h : root.Fits source.toList) :
  ∃ t, toTree source false root = .ok t
  := by
  obtain ⟨⟨body, t₀⟩, hlay⟩ := Sketch.exists_layOutAll? (allSound_part h).2 {}
  obtain ⟨comments, hcomments⟩ := exists_comments? h
  rw [toTree, if_neg Bool.false_ne_true]
  dsimp only
  rw [hlay, hcomments]
  exact ⟨_, rfl⟩

/-- The tree of a source is a forest below its body: each place is referred to once, from the body
or from a place further on, and what is made of a phrase stands where it is referred to.  There is
a tree if every node lies between characters of the source, and a walk through it ends. -/
theorem toTree_planted (source : String) (root : Concrete) :
  (root.Fits source.toList → ∃ t, toTree source false root = .ok t)
    ∧ ∀ t, toTree source false root = .ok t →
      t.Planted ∧ Sketch.AllAt source.toList t root.part.inner t.body ∧ t.Climbs
  := by
  use exists_toTree
  intro t ht
  obtain ⟨body, t₀, comments, hlay, rfl⟩ := exists_of_toTree ht
  obtain ⟨hg, hall⟩ := Sketch.grows_of_layOutAll? hlay
  let t : Tree := { t₀ with body, comments }
  have hat : Sketch.AllAt source.toList t root.part.inner body := by
    apply hall.mono
    intro h n hn
    apply hn
  have hp : t.Planted := by
    constructor
    · have hadded : Tree.added {} t₀ = List.range t.size := List.range_eq_range'.symm
      have hperm := hg.perm
      rw [hadded] at hperm
      apply hperm
    · intro h
      apply hg.lt (Nat.zero_le h)
  have hbody : ∀ h ∈ body, Sketch.Stands source.toList t h := by
    intro h hmem
    obtain ⟨s, hs, hats⟩ := hat.exists_of_mem hmem
    exact ⟨s, (allSound_part fun _ _ => trivial).2 s hs, hats⟩
  use hp, hat
  apply hp.climbs
  intro h hr
  apply (Sketch.Stands.of_reaches hbody hr).wellPlaced

/-- The concrete tree of `a = (b)`. -/
def assignmentTree : Concrete :=
  let leaf (kind : String) (field : Option String) (bytes : Nat × Nat) : Concrete :=
    .node { kind, field, rows := ⟨0, 0⟩, bytes } []
  let sign (kind : String) (bytes : Nat × Nat) : Concrete :=
    .node { kind, named := false, rows := ⟨0, 0⟩, bytes } []
  let parentheses : Concrete :=
    .node { kind := "parenthesized_expression", field := "right", rows := ⟨0, 0⟩, bytes := (4, 7) }
      [sign "(" (4, 5), leaf "identifier" none (5, 6), sign ")" (6, 7)]
  let assignment : Concrete :=
    .node { kind := "assignment_expression", rows := ⟨0, 0⟩, bytes := (0, 7) }
      [leaf "identifier" "left" (0, 1), sign "=" (2, 3), parentheses]
  .node { kind := "program", rows := ⟨0, 0⟩, bytes := (0, 7) }
    [.node { kind := "expression_statement", rows := ⟨0, 0⟩, bytes := (0, 7) } [assignment]]

theorem toTree_planted_assignmentTree :
  assignmentTree.Fits "a = (b)".toList
    ∧ ∃ t, toTree "a = (b)" false assignmentTree = .ok t ∧ t.Planted ∧ t.Climbs
  := by
  have hfits : assignmentTree.Fits "a = (b)".toList := List.all_eq_true.1 rfl
  obtain ⟨hexists, hall⟩ := toTree_planted "a = (b)" assignmentTree
  obtain ⟨t, ht⟩ := hexists hfits
  obtain ⟨hp, -, hc⟩ := hall t ht
  exact ⟨hfits, t, ht, hp, hc⟩

end Concrete

end DocPages

import DocPages.Proofs.TypeExpr.Shape
import DocPages.TypeExpr.Format

/-!
# Types with a displayed form

A type has a displayed form exactly if all types within it are of shapes that have one; else a type
within it that is not is returned.  `Displays` says this of any computation that displays types one
after the other, whatever it makes of them, so that it can be shown step by step.  Of the types
that are read from a text, only those with a mark for null have no displayed form.
-/

namespace DocPages

namespace TypeExpr

/-- `Within t p`: the type `p` is `t` or a part of a type within `t`. -/
inductive Within : TypeExpr → TypeExpr → Prop where
  | self {t : TypeExpr} :
      Within t t
  | part {t u p : TypeExpr} :
      u ∈ t.parts → Within u p → Within t p

/-- Is the type of a shape that has a displayed form? -/
def isDisplayed : TypeExpr → Bool
  | field .. | nullable _ | nonNullable _ | list _ | value _ => false
  | _ => true

/-- Is the type marked as with or without null? -/
def isNullMarked : TypeExpr → Bool
  | nullable _ | nonNullable _ => true
  | _ => false

theorem isDisplayed_eq_false_of_isNullMarked {t : TypeExpr} (h : t.isNullMarked) :
  t.isDisplayed = false
  := by
  cases t with
  | nullable _ | nonNullable _ => rfl
  | _ => cases h

variable {ε α β : Type} {fault : TypeExpr → ε} {us vs : List TypeExpr}

/-- The computation displays the types `us`: it succeeds if all types within them have a displayed
form, and else it fails with a type within them that has none. -/
def Displays (fault : TypeExpr → ε) (us : List TypeExpr) (r : Except ε α) : Prop :=
  (∃ x, r = .ok x ∧ ∀ u ∈ us, ∀ p, Within u p → p.isDisplayed)
    ∨ ∃ p, r = .error (fault p) ∧ p.isDisplayed = false ∧ ∃ u ∈ us, Within u p

namespace Displays

theorem ok (x : α) :
  Displays fault [] (.ok x)
  := by
  left
  use x, rfl
  intro u hu
  cases hu

theorem error {p : TypeExpr} (hp : p.isDisplayed = false) :
  Displays fault [p] (.error (fault p) : Except ε α)
  := by
  right
  exact ⟨p, rfl, hp, p, List.mem_singleton_self p, Within.self⟩

/-- What is displayed does not depend on the order, and not on how often it is. -/
theorem congr {r : Except ε α} (h : Displays fault us r) (he : ∀ u, u ∈ us ↔ u ∈ vs) :
  Displays fault vs r
  := by
  rcases h with ⟨x, hr, hall⟩ | ⟨p, hr, hp, u, hu, hw⟩
  · left
    use x, hr
    intro u hu
    apply hall u ((he u).2 hu)
  · right
    exact ⟨p, hr, hp, u, (he u).1 hu, hw⟩

theorem bind {r : Except ε α} {f : α → Except ε β} (h : Displays fault us r)
    (hf : ∀ x, r = .ok x → Displays fault vs (f x)) :
  Displays fault (us ++ vs) (r >>= f)
  := by
  rcases h with ⟨x, hr, hall⟩ | ⟨p, hr, hp, u, hu, hw⟩
  · rw [hr, ok_bind]
    rcases hf x hr with ⟨y, hy, hall'⟩ | ⟨p, hy, hp, u, hu, hw⟩
    · left
      use y, hy
      intro u hu
      rcases List.mem_append.1 hu with hu | hu
      · apply hall u hu
      · apply hall' u hu
    · right
      exact ⟨p, hy, hp, u, List.mem_append_right _ hu, hw⟩
  · right
    rw [hr]
    exact ⟨p, rfl, hp, u, List.mem_append_left _ hu, hw⟩

theorem map {r : Except ε α} (h : Displays fault us r) (f : α → β) :
  Displays fault us (r.map f)
  := by
  rcases h with ⟨x, hr, hall⟩ | ⟨p, hr, hp, hw⟩
  · left
    exact ⟨f x, by rw [hr]; rfl, hall⟩
  · right
    exact ⟨p, by rw [hr]; rfl, hp, hw⟩

theorem mapM {γ : Type} {xs : List γ} {typesOf : γ → List TypeExpr} {f : γ → Except ε α}
    (h : ∀ x ∈ xs, Displays fault (typesOf x) (f x)) :
  Displays fault (xs.flatMap typesOf) (xs.mapM f)
  := by
  induction xs with
  | nil => apply ok
  | cons x xs ih =>
    rw [List.forall_mem_cons] at h
    rw [List.mapM_cons, List.flatMap_cons]
    apply h.1.bind
    intro y _
    have htail := (ih h.2).bind fun ys _ => ok (y :: ys)
    rw [List.append_nil] at htail
    apply htail

/-- A type of a shape with a displayed form is displayed by displaying its parts. -/
theorem of_parts {t : TypeExpr} {r : Except ε α} (h : Displays fault t.parts r)
    (ht : t.isDisplayed) :
  Displays fault [t] r
  := by
  rcases h with ⟨x, hr, hall⟩ | ⟨p, hr, hp, u, hu, hw⟩
  · left
    use x, hr
    intro u hu p hw
    rw [List.mem_singleton.1 hu] at hw
    cases hw with
    | self => apply ht
    | part hu hw => apply hall _ hu p hw
  · right
    exact ⟨p, hr, hp, t, List.mem_singleton_self t, Within.part hu hw⟩

/-- Something is made of the displayed form of the parts. -/
theorem of_parts_bind {t : TypeExpr} {r : Except ε α} {f : α → Except ε β}
    (h : Displays fault t.parts r) (ht : t.isDisplayed) (hf : ∀ x, ∃ y, f x = .ok y) :
  Displays fault [t] (r >>= f)
  := by
  apply of_parts _ ht
  have hbind : Displays fault (t.parts ++ []) (r >>= f) := by
    apply h.bind
    intro x _
    obtain ⟨y, hy⟩ := hf x
    rw [hy]
    apply ok
  rw [List.append_nil] at hbind
  apply hbind

end Displays

mutual

theorem displays_format (t : TypeExpr) :
  Displays id [t] t.format
  := by
  cases t with
  | name n => apply (Displays.ok n).of_parts rfl
  | all | null => apply (Displays.ok _).of_parts rfl
  | application e args =>
    apply Displays.of_parts _ rfl
    have h := (displays_formatAll args).bind fun as _ =>
      (displays_format e).bind fun t _ => Displays.ok (t ++ ".<" ++ "|".intercalate as ++ ">")
    apply h.congr
    intro u
    simp [parts, or_comm]
  | record fields => apply (displays_formatFields fields).of_parts_bind rfl fun _ => ⟨_, rfl⟩
  | optional e => apply (displays_format e).of_parts_bind rfl fun _ => ⟨_, rfl⟩
  | union es => apply (displays_formatAll es).of_parts_bind rfl fun _ => ⟨_, rfl⟩
  | rest e => apply (displays_format e).of_parts_bind rfl fun _ => ⟨_, rfl⟩
  | function params result =>
    apply Displays.of_parts _ rfl
    rw [format, parts]
    apply (displays_formatAll params).bind
    intro ps _
    cases result with
    | none => apply Displays.ok
    | some r =>
      have h := (displays_format r).bind fun t _ =>
        Displays.ok ("function(" ++ ", ".intercalate ps ++ ")" ++ ":" ++ t)
      apply h
  | field k t | nullable e | nonNullable e | list items | value v => apply Displays.error rfl
termination_by structural t

theorem displays_formatAll (ts : List TypeExpr) :
  Displays id ts (formatAll ts)
  := by
  cases ts with
  | nil => apply Displays.ok
  | cons t ts =>
    have h := (displays_format t).bind fun s _ =>
      (displays_formatAll ts).bind fun ss _ => Displays.ok (s :: ss)
    apply h.congr
    intro u
    simp
termination_by structural ts

theorem displays_formatFields (fs : List (String × TypeExpr)) :
  Displays id (fs.map Prod.snd) (formatFields fs)
  := by
  cases fs with
  | nil => apply Displays.ok
  | cons f fs =>
    have h := (displays_formatField f).bind fun s _ =>
      (displays_formatFields fs).bind fun ss _ => Displays.ok (s :: ss)
    apply h.congr
    intro u
    simp
termination_by structural fs

theorem displays_formatField (f : String × TypeExpr) :
  Displays id [f.2] (formatField f)
  := by
  cases f with
  | mk k t =>
    have h := (displays_format t).bind fun s _ => Displays.ok (k ++ ":" ++ s)
    apply h
termination_by structural f

end

/-! ### Types that are read -/

/-- Within a type that is read, only a mark for null keeps it from being displayed. -/
theorem Shaped.isNullMarked_of_within {s : Spelling} {t p : TypeExpr} (h : Shaped s t)
    (hw : Within t p) (hp : p.isDisplayed = false) :
  p.isNullMarked
  := by
  induction h generalizing p with
  | name _ _ | all | null =>
    cases hw with
    | self => cases hp
    | part hu _ => cases hu
  | application _ _ _ _ ih =>
    cases hw with
    | self => cases hp
    | part hu hw =>
      rcases List.mem_cons.1 hu with rfl | hu
      · cases hw with
        | self => cases hp
        | part hu _ => cases hu
      · apply ih _ hu hw hp
  | record _ _ ih =>
    cases hw with
    | self => cases hp
    | part hu hw =>
      obtain ⟨f, hf, rfl⟩ := List.mem_map.1 hu
      apply ih f hf hw hp
  | optional _ _ ih | group _ _ ih | rest _ ih =>
    cases hw with
    | self => cases hp
    | part hu hw =>
      rw [List.mem_singleton.1 hu] at hw
      apply ih hw hp
  | union _ _ _ ih =>
    cases hw with
    | self => cases hp
    | part hu hw => apply ih _ hu hw hp
  | nullable _ ih | nonNullable _ ih =>
    cases hw with
    | self => rfl
    | part hu hw =>
      rw [List.mem_singleton.1 hu] at hw
      apply ih hw hp
  | function _ _ ih₁ ih₂ =>
    cases hw with
    | self => cases hp
    | part hu hw =>
      rcases List.mem_append.1 hu with hu | hu
      · apply ih₁ _ hu hw hp
      · apply ih₂ _ (Option.mem_toList.1 hu) hw hp

end TypeExpr

end DocPages

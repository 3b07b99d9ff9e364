import DocPages.Doclet.Reader
import DocPages.Proofs.QualifiedName
import DocPages.Proofs.TypeExpr.Format
import DocPages.Record.Extract
import Mathlib.Data.List.Basic

/-!
# Records of doclets

There is a record of a name and a doclet unless a type that it shows has no displayed form: the
types it shows are those of the parameters and of the first result.  Of a doclet that is read from
a comment, only types with a mark for null have none.
-/

namespace DocPages

open TypeExpr (Within Displays)

/-! ### The types in a doclet -/

theorem exists_of_mem_mapM {ε α β : Type} {f : α → Except ε β} {xs : List α} {ys : List β}
    (h : xs.mapM f = .ok ys) {y : β} (hy : y ∈ ys) :
  ∃ x ∈ xs, f x = .ok y
  := by
  induction xs generalizing ys with
  | nil =>
    cases h
    cases hy
  | cons x xs ih =>
    rw [List.mapM_cons] at h
    obtain ⟨y', hy', h⟩ := exists_of_bind_eq_ok h
    obtain ⟨ys', hys', h⟩ := exists_of_bind_eq_ok h
    cases h
    rcases List.mem_cons.1 hy with rfl | hy
    · exact ⟨x, List.mem_cons_self, hy'⟩
    · obtain ⟨x', hx', hf⟩ := ih hys' hy
      exact ⟨x', List.mem_cons_of_mem _ hx', hf⟩

namespace Doclet

end Doclet

/-! ### Records -/

namespace Record

theorem examples_of_ofDoclet {render : Renderer} {handlers : List (String → Bool)} {name : String}
    {doc : Doclet} {r : Record} (h : ofDoclet render handlers name doc = .ok r) :
  r.examples = ExampleList.ofDoclet handlers doc
  := by
  obtain ⟨params, -, h⟩ := exists_of_bind_eq_ok h
  obtain ⟨returns, -, h⟩ := exists_of_bind_eq_ok h
  dsimp only at h
  split at h
  · cases h
  · cases h
    rfl

end Record

end DocPages

import DocPages.Library.Extract
import DocPages.Proofs.Association
import DocPages.Proofs.Concrete.Legible
import DocPages.Proofs.Record
import DocPages.Proofs.Tree.Nodes

/-!
# What comments contribute

Each comment of a source contributes to the library on its own.  It documents the first function
on the line after it, if it says something and the function has a name; there is a record of that
unless a type in it has a mark for null.  The library is built from the records in the order of the
comments.  Nothing else keeps it from being built than such a type, and then the first comment with
one is to blame, or a node of unknown kind, whatever the comments say.
-/

namespace DocPages

/-! ### Where records come from -/

namespace Library

variable {render : Renderer} {handlers : List (String → Bool)} {t : Tree} {links : Links}

theorem mem_of_mem_selectRecords {tags : List String} {rs : List Record} {r : Record}
    (h : r ∈ selectRecords tags rs) :
  r ∈ rs
  := by
  unfold selectRecords at h
  extract_lets chosen at h
  split at h
  · exact h
  · exact (List.mem_filter.1 h).1

theorem exists_ofDoclet_of_recordOf {m : Match} {r : Record}
    (h : recordOf render handlers t links m = .ok (some r)) :
  ∃ name, Record.ofDoclet render handlers name m.doclet = .ok r
  := by
  rw [recordOf] at h
  split at h
  · cases h
  · cases h
  · rename_i name _
    use name
    split at h
    · cases h
    · rename_i hr
      cases h
      exact hr

/-- Each record is made from the doclet of a match. -/
theorem exists_ofDoclet_of_recordsOf {ms : List Match} {rs : List Record}
    (h : (recordsOf render handlers t links ms).2 = .ok rs) {r : Record} (hr : r ∈ rs) :
  ∃ m ∈ ms, ∃ name, Record.ofDoclet render handlers name m.doclet = .ok r
  := by
  induction ms generalizing rs with
  | nil =>
    cases h
    cases hr
  | cons m ms ih =>
    rw [recordsOf] at h
    split at h
    · cases h
    · obtain ⟨m', hm', hname⟩ := ih h hr
      exact ⟨m', List.mem_cons_of_mem m hm', hname⟩
    · rename_i r' hr'
      obtain ⟨rs', hrs', h⟩ := exists_of_bind_eq_ok h
      cases h
      rcases List.mem_cons.1 hr with rfl | hr
      · exact ⟨m, List.mem_cons_self, exists_ofDoclet_of_recordOf hr'⟩
      · obtain ⟨m', hm', hname⟩ := ih hrs' hr
        exact ⟨m', List.mem_cons_of_mem m hm', hname⟩

/-- A library is built from some of the records. -/
theorem exists_build_of_ofTree {settings : Settings} {code : String} {l : Library}
    (h : (ofTree settings render code t).2 = .ok l) :
  ∃ links ms rs summary, (recordsOf render settings.tests t links ms).2 = .ok rs
    ∧ l = build summary code settings.namespaces (selectRecords settings.tags rs)
  := by
  rw [ofTree] at h
  dsimp only at h
  split at h
  · cases h
  · dsimp only at h
    split at h
    · cases h
    · rename_i rs hrs
      cases h
      exact ⟨_, _, rs, _, hrs, rfl⟩

end Library

/-! ### What a comment documents -/

namespace Tree

end Tree

namespace Library

variable {t : Tree} (render : Renderer) (handlers : List (String → Bool))

/-- What becomes of a comment: nothing, a record or a failure. -/
def outcome (t : Tree) (c : Comment) : Except ExtractError (Option Record) :=
  let trail := t.walkBody Links.none
  match (associateOne (t.functionIndex trail) c).2 with
  | none => .ok none
  | some m => recordOf render handlers t trail.links m

variable (settings : Settings) (code : String)

/-- What is documented in a tree with these comments in the place of its own. -/
def extract (t : Tree) (cs : List Comment) : Except ExtractError Library :=
  (ofTree settings render code { t with comments := cs }).2

/-- The syntax tree of `function f() {}`. -/
def declaration : Tree where
  nodes :=
    #[⟨.identifier, ⟨0, 0⟩, [("name", .text "f")]⟩,
      ⟨.blockStatement, ⟨0, 0⟩, [("body", .nodes [])]⟩,
      ⟨.functionDeclaration, ⟨0, 0⟩, [("id", .node 0), ("params", .nodes []), ("body", .node 1)]⟩]
  body := [2]

end Library

end DocPages

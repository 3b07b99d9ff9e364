import DocPages.Association
import DocPages.Concrete.Tree
import DocPages.Library.Basic
import DocPages.Record.Extract
import DocPages.Settings.Basic
import DocPages.Tree.Naming

/-!
# Libraries from source texts

`Library.ofTree` finds what is documented in a syntax tree.  The notices that arise on the way
come with the answer, also if there is none.
-/

namespace DocPages

/-- Why nothing is documented. -/
inductive ExtractError where
  | source (e : SourceError)
  | unknownNode (n : Node)
  | brokenTree (f : Tree.Fault)
  | brokenName (f : NameFault)
  | endlessWalk
  | record (e : RecordError)
  deriving Inhabited

/-- What is said if nothing is documented. -/
def ExtractError.message : ExtractError → String
  | source e => e.message
  | unknownNode n => n.unknownMessage
  | brokenTree _ | brokenName _ => "A field of a node does not hold what it should"
  | endlessWalk => "The tree never ends"
  | record e => e.message

namespace Library

/-- What the first comment that is an overview of the file says of the library. -/
def summaryOf (render : Renderer) : List Comment → List Notice × Summary
  | [] => ([], {})
  | c :: cs =>
    match Doclet.ofComment c with
    | .error e =>
      let (notices, summary) := summaryOf render cs
      (.unreadable c.extent.first e :: notices, summary)
    | .ok doc =>
      match doc.tag? "fileOverview" with
      | none => summaryOf render cs
      | some overview =>
        ([], { name := doc.tagText "name", description := render (overview.description.getD "") })

/-- The record of the first function of a match.  There is none if the function has no
name. -/
def recordOf (render : Renderer) (handlers : List (String → Bool)) (t : Tree) (links : Links)
    (m : Match) : Except ExtractError (Option Record) :=
  match t.name? links m.functions.head? with
  | .error f => .error (.brokenName f)
  | .ok none => .ok none
  | .ok (some name) =>
    match Record.ofDoclet render handlers name m.doclet with
    | .error e => .error (.record e)
    | .ok r => .ok (some r)

/-- The records of some matches, up to the first that fails. -/
def recordsOf (render : Renderer) (handlers : List (String → Bool)) (t : Tree) (links : Links) :
    List Match → List Notice × Except ExtractError (List Record)
  | [] => ([], .ok [])
  | m :: ms =>
    match recordOf render handlers t links m with
    | .error e => ([], .error e)
    | .ok none =>
      let (notices, records) := recordsOf render handlers t links ms
      (.unnamed (t.firstLine (m.functions.headD 0)) :: notices, records)
    | .ok (some r) =>
      let (notices, records) := recordsOf render handlers t links ms
      (notices, records.map (r :: ·))

/-- How the walk that finds the functions ends, if it does not come to all nodes. -/
def walkError? (t : Tree) : Walk.Ending → Option ExtractError
  | .failed (.unknownKind h) => some (.unknownNode ((t.node? h).getD default))
  | .failed f => some (.brokenTree f)
  | .unending => some .endlessWalk
  | .finished | .stopped _ => none

/-- What is documented in the syntax tree of a source text. -/
def ofTree (settings : Settings) (render : Renderer) (code : String) (t : Tree) :
    List Notice × Except ExtractError Library :=
  let (overviewNotices, summary) := summaryOf render t.comments
  let trail := t.walkBody Links.none
  match walkError? t trail.ending with
  | some e => (overviewNotices, .error e)
  | none =>
    let (matchNotices, pairs) := associate (t.functionIndex trail) t.comments
    let (recordNotices, records) := recordsOf render settings.tests t trail.links pairs
    (overviewNotices ++ matchNotices ++ recordNotices,
      match records with
      | .error e => .error e
      | .ok rs => .ok (build summary code settings.namespaces (selectRecords settings.tags rs)))

end Library

end DocPages

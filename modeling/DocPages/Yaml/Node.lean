import DocPages.Yaml.Scalar
import DocPages.Yaml.Token

/-!
# Nodes of a document

A `Node` is a scalar, a list of nodes or a list of pairs of nodes, each with the tag that says
what it stands for.  `Node.ofTokens?` reads the nodes of the one document that tokens make up;
names given to nodes are replaced by the nodes.
-/

namespace DocPages

namespace Yaml

/-- A node of a document. -/
inductive Node where
  | scalar (tag : String) (text : String)
  | sequence (tag : String) (items : List Node)
  | mapping (tag : String) (entries : List (Node × Node))
  deriving Inhabited

namespace Node

/-- The tag of a node. -/
def tag : Node → String
  | scalar t _ | sequence t _ | mapping t _ => t

/-- A node that is not written. -/
def void : Node := scalar (Tag.ofPlain []) ""

/-- What has been named so far; a node has no value while it is being read. -/
abbrev Names := List (String × Option Node)

/-- Handles of tags and what they stand for. -/
abbrev Handles := List (String × String)

/-- What is read, the tokens that are left, and the names so far. -/
abbrev Found (α : Type) := α × List Token × Names

/-- The properties of a node: its name and its tag. -/
structure Properties where
  name : Option String := none
  tag : Option String := none

/-- The full tag of a handle and a suffix. -/
def fullTag? (handles : Handles) (handle : Option String) (suffix : String) : Option String :=
  match handle with
  | none => some suffix
  | some h => (handles.lookup h).map (· ++ suffix)

/-- The properties that tokens start with, and the tokens after them. -/
def properties? (handles : Handles) (ts : List Token) : Option (Properties × List Token) :=
  match ts with
  | .anchor a :: .tag h s :: ts | .tag h s :: .anchor a :: ts =>
    (fullTag? handles h s).map fun t => (⟨some a, some t⟩, ts)
  | .anchor a :: ts => some (⟨some a, none⟩, ts)
  | .tag h s :: ts => (fullTag? handles h s).map fun t => (⟨none, some t⟩, ts)
  | ts => some ({}, ts)

/-- The tag of a collection that has no other. -/
def collectionTag (given : Option String) (usual : String) : String :=
  match given with
  | none => usual
  | some t => if t == "!" then usual else t

/-- The tag of a scalar: the one that is given, else that of its text if it is plain. -/
def scalarTag (given : Option String) (plain : Bool) (text : String) : String :=
  match given with
  | none => if plain then Tag.ofPlain text.toList else Tag.text
  | some t => if t == "!" then Tag.ofPlain text.toList else t

/-- Does one of the tokens come next? -/
private def comesNext (ts : List Token) (any : List Token) : Bool :=
  match ts with
  | t :: _ => any.contains t
  | [] => false

/-- The names with one for the node. -/
private def named (name : Option String) (n : Node) (names : Names) : Names :=
  match name with
  | some a => names.map fun e => if e.1 == a then (a, some n) else e
  | none => names

mutual

/-- The node that tokens start with.  Outside brackets it may be a collection that is set in, and
as the value of a key also a list that is not. -/
def node? (handles : Handles) : Nat → Bool → Bool → List Token → Names → Option (Found Node)
  | 0, _, _, _, _ => none
  | fuel + 1, block, indentless, ts, names =>
    match ts with
    | .alias a :: ts =>
      match names.lookup a with
      | some (some n) => some (n, ts, names)
      | _ => none
    | ts => do
      let (p, ts) ← properties? handles ts
      let names ← match p.name with
        | some a => if (names.lookup a).isSome then none else some ((a, none) :: names)
        | none => some names
      let list (r : Option (Found (List Node))) : Option (Found Node) :=
        r.map fun (items, ts, names) =>
          let n := sequence (collectionTag p.tag Tag.list) items
          (n, ts, named p.name n names)
      let map (r : Option (Found (List (Node × Node)))) : Option (Found Node) :=
        r.map fun (entries, ts, names) =>
          let n := mapping (collectionTag p.tag Tag.map) entries
          (n, ts, named p.name n names)
      match ts with
      | .scalar text plain :: ts =>
        let n := scalar (scalarTag p.tag plain text) text
        some (n, ts, named p.name n names)
      | .flowSequenceStart :: ts => list (flowItems? handles fuel true ts names)
      | .flowMappingStart :: ts => map (flowEntries? handles fuel true ts names)
      | .blockEntry :: ts =>
        if indentless then list (looseItems? handles fuel (.blockEntry :: ts) names)
        else emptyNode p names (.blockEntry :: ts)
      | .blockSequenceStart :: ts =>
        if block then list (blockItems? handles fuel ts names)
        else emptyNode p names (.blockSequenceStart :: ts)
      | .blockMappingStart :: ts =>
        if block then map (blockEntries? handles fuel ts names)
        else emptyNode p names (.blockMappingStart :: ts)
      | ts => emptyNode p names ts

/-- The node with the given properties and no text; there must be properties. -/
def emptyNode (p : Properties) (names : Names) (ts : List Token) : Option (Found Node) :=
  if p.name.isSome || p.tag.isSome then
    let n := scalar (scalarTag p.tag true "") ""
    some (n, ts, named p.name n names)
  else none

/-- The node that tokens start with, or none written if one of the given tokens comes next. -/
def nodeUnless? (handles : Handles) (ends : List Token) :
    Nat → Bool → Bool → List Token → Names → Option (Found Node)
  | 0, _, _, _, _ => none
  | fuel + 1, block, indentless, ts, names =>
    if comesNext ts ends then some (void, ts, names)
    else node? handles fuel block indentless ts names

/-- The items of a list that is set in. -/
def blockItems? (handles : Handles) : Nat → List Token → Names → Option (Found (List Node))
  | 0, _, _ => none
  | fuel + 1, ts, names =>
    match ts with
    | .blockEntry :: ts => do
      let (n, ts, names) ←
        nodeUnless? handles [.blockEntry, .blockEnd] fuel true false ts names
      let (ns, ts, names) ← blockItems? handles fuel ts names
      some (n :: ns, ts, names)
    | .blockEnd :: ts => some ([], ts, names)
    | _ => none

/-- The items of a list that is not set in. -/
def looseItems? (handles : Handles) : Nat → List Token → Names → Option (Found (List Node))
  | 0, _, _ => none
  | fuel + 1, ts, names =>
    match ts with
    | .blockEntry :: ts => do
      let (n, ts, names) ←
        nodeUnless? handles [.blockEntry, .key, .value, .blockEnd] fuel true false ts names
      let (ns, ts, names) ← looseItems? handles fuel ts names
      some (n :: ns, ts, names)
    | ts => some ([], ts, names)

/-- The value after a colon, or none written if there is no colon. -/
def valueOf? (handles : Handles) (ends : List Token) :
    Nat → Bool → List Token → Names → Option (Found Node)
  | 0, _, _, _ => none
  | fuel + 1, block, ts, names =>
    match ts with
    | .value :: ts => nodeUnless? handles ends fuel block block ts names
    | ts => some (void, ts, names)

/-- The entries of a map that is set in. -/
def blockEntries? (handles : Handles) :
    Nat → List Token → Names → Option (Found (List (Node × Node)))
  | 0, _, _ => none
  | fuel + 1, ts, names =>
    let ends : List Token := [.key, .value, .blockEnd]
    match ts with
    | .key :: ts => do
      let (k, ts, names) ← nodeUnless? handles ends fuel true true ts names
      let (v, ts, names) ← valueOf? handles ends fuel true ts names
      let (es, ts, names) ← blockEntries? handles fuel ts names
      some ((k, v) :: es, ts, names)
    | .blockEnd :: ts => some ([], ts, names)
    | _ => none

/-- The items of a list in brackets; all but the first one come after a comma. -/
def flowItems? (handles : Handles) : Nat → Bool → List Token → Names → Option (Found (List Node))
  | 0, _, _, _ => none
  | fuel + 1, first, ts, names =>
    let item (ts : List Token) : Option (Found (List Node)) :=
      let ends : List Token := [.flowEntry, .flowSequenceEnd]
      match ts with
      | .flowSequenceEnd :: ts => some ([], ts, names)
      | .key :: ts => do
        let (k, ts, names) ← nodeUnless? handles (.value :: ends) fuel false false ts names
        let (v, ts, names) ← valueOf? handles ends fuel false ts names
        let (ns, ts, names) ← flowItems? handles fuel false ts names
        some (mapping Tag.map [(k, v)] :: ns, ts, names)
      | ts => do
        let (n, ts, names) ← node? handles fuel false false ts names
        let (ns, ts, names) ← flowItems? handles fuel false ts names
        some (n :: ns, ts, names)
    match first, ts with
    | false, .flowSequenceEnd :: ts => some ([], ts, names)
    | false, .flowEntry :: ts => item ts
    | false, _ => none
    | true, ts => item ts

/-- The entries of a map in braces; all but the first one come after a comma. -/
def flowEntries? (handles : Handles) :
    Nat → Bool → List Token → Names → Option (Found (List (Node × Node)))
  | 0, _, _, _ => none
  | fuel + 1, first, ts, names =>
    let entry (ts : List Token) : Option (Found (List (Node × Node))) :=
      let ends : List Token := [.flowEntry, .flowMappingEnd]
      match ts with
      | .flowMappingEnd :: ts => some ([], ts, names)
      | .key :: ts => do
        let (k, ts, names) ← nodeUnless? handles (.value :: ends) fuel false false ts names
        let (v, ts, names) ← valueOf? handles ends fuel false ts names
        let (es, ts, names) ← flowEntries? handles fuel false ts names
        some ((k, v) :: es, ts, names)
      | ts => do
        let (k, ts, names) ← node? handles fuel false false ts names
        let (es, ts, names) ← flowEntries? handles fuel false ts names
        some ((k, void) :: es, ts, names)
    match first, ts with
    | false, .flowMappingEnd :: ts => some ([], ts, names)
    | false, .flowEntry :: ts => entry ts
    | false, _ => none
    | true, ts => entry ts

end

/-! ### Documents -/

/-- The handles that every document has. -/
def usualHandles : Handles := [("!", "!"), ("!!", Tag.start)]

/-- The handles that directives give, and the tokens after the directives.  A version is given at
most once and is a version one, and no handle is given twice. -/
def directives? : Bool → Handles → List Token → Option (Handles × List Token)
  | versioned, handles, .directive d :: ts =>
    match d with
    | .version major =>
      if versioned || major != 1 then none else directives? true handles ts
    | .handle name expansion =>
      if (handles.lookup name).isSome then none
      else directives? versioned ((name, expansion) :: handles) ts
    | .other => directives? versioned handles ts
  | _, handles, ts => some (handles, ts)

/-- The node of the one document that tokens make up, or none if they make up no document. -/
def ofTokens? (ts : List Token) : Option (Option Node) :=
  let finish (r : Option (Found Node)) : Option (Option Node) :=
    match r with
    | some (n, ts, _) => if (ts.dropWhile (· == .documentEnd)).isEmpty then some (some n) else none
    | none => none
  let fuel := 4 * ts.length + 4
  match ts with
  | [] => some none
  | .directive _ :: _ | .documentStart :: _ => do
    let (handles, ts) ← directives? false [] ts
    match ts with
    | .documentStart :: ts =>
      match ts with
      | [] | .documentEnd :: _ => finish (some (void, ts, []))
      | .directive _ :: _ | .documentStart :: _ => none
      | ts => finish (node? (handles ++ usualHandles) fuel true false ts [])
    | _ => none
  | ts => finish (node? usualHandles fuel true false ts [])

end Node

end Yaml

end DocPages

import DocPages.Yaml.Node

/-!
# Values of documents

`Yaml.parse` reads the value of a document.  In a map the first of two keys that are the same
stays and takes the value of the last, and what is merged into a map comes before its own
entries.
-/

namespace DocPages

namespace Yaml

namespace Node

/-! ### Merging -/

mutual

/-- The entries that are merged into a map, and those of its own. -/
def splitEntries? : List (Node × Node) → Option (List (Node × Node) × List (Node × Node))
  | [] => some ([], [])
  | e :: es =>
    match splitEntry? e, splitEntries? es with
    | some (merged, own), some (more, others) => some (merged ++ more, own ++ others)
    | _, _ => none
termination_by structural es => es

/-- The entries that an entry merges, or itself. -/
def splitEntry? : Node × Node → Option (List (Node × Node) × List (Node × Node))
  | (k, v) =>
    if k.tag == Tag.merge then (mergedEntries? v).map fun es => (es, [])
    else
      match k with
      | scalar t s => some ([], [(scalar (if t == Tag.value then Tag.text else t) s, v)])
      | k => some ([], [(k, v)])
termination_by structural e => e

/-- The entries that a node gives when it is merged: those of a map, or those of the maps in a
list, the last map first. -/
def mergedEntries? : Node → Option (List (Node × Node))
  | mapping _ es => (splitEntries? es).map fun (merged, own) => merged ++ own
  | sequence _ items => mergedItems? items
  | scalar .. => none
termination_by structural n => n

/-- The entries of the maps in a list, the last map first. -/
def mergedItems? : List Node → Option (List (Node × Node))
  | [] => some []
  | n :: ns =>
    match n, mergedEntries? n, mergedItems? ns with
    | mapping .., some es, some more => some (more ++ es)
    | _, _, _ => none
termination_by structural ns => ns

end

/-! ### Values -/

/-- The key that a value is, if it can be one. -/
def keyOf? : Value → Option Key
  | .null => some .null
  | .bool b => some (.bool b)
  | .int n => some (.int n)
  | .float x => some (.float x)
  | .text s => some (.text s)
  | .shown s => some (.shown s)
  | .list _ | .map _ => none

/-- A pair of values, as it is shown. -/
def shownPair (k v : Value) : Value :=
  let s := "(" ++ k.quotedText ++ ", " ++ v.quotedText ++ ")"
  .shown ⟨"tuple", s, s, true⟩

/-- A set of keys, as it is shown. -/
def shownSet (keys : List Key) : Value :=
  let s := if keys.isEmpty then "set()"
    else "\x7b" ++ ", ".intercalate (keys.map Key.quotedText) ++ "\x7d"
  .shown ⟨"set", s, s, !keys.isEmpty⟩

mutual

/-- The value of a node; the number given bounds how deep nodes are nested. -/
def value : Nat → Node → Except Fault Value
  | 0, _ => .error .malformed
  | fuel + 1, n =>
    match n with
    | scalar tag text => Tag.read tag text
    | sequence tag items =>
      if tag == Tag.list then (values fuel items).map .list
      else if tag == Tag.start ++ "omap" || tag == Tag.start ++ "pairs" then
        (pairs fuel items).map .list
      else .error .malformed
    | mapping tag es =>
      match splitEntries? es with
      | none => .error .malformed
      | some (merged, own) =>
        if tag == Tag.map then (entries fuel (merged ++ own) []).map .map
        else if tag == Tag.start ++ "set" then
          (entries fuel (merged ++ own) []).map fun es => shownSet (es.map Prod.fst)
        else .error .malformed

/-- The value of each node. -/
def values : Nat → List Node → Except Fault (List Value)
  | 0, _ => .error .malformed
  | _ + 1, [] => .ok []
  | fuel + 1, n :: ns => do
    let v ← value fuel n
    let vs ← values fuel ns
    .ok (v :: vs)

/-- The pairs that maps of one entry are. -/
def pairs : Nat → List Node → Except Fault (List Value)
  | 0, _ => .error .malformed
  | _ + 1, [] => .ok []
  | fuel + 1, n :: ns =>
    match n with
    | mapping _ [(k, v)] => do
      let k ← value fuel k
      let v ← value fuel v
      let vs ← pairs fuel ns
      .ok (shownPair k v :: vs)
    | _ => .error .malformed

/-- The entries of a map, on top of those before. -/
def entries : Nat → List (Node × Node) → List (Key × Value) → Except Fault (List (Key × Value))
  | 0, _, _ => .error .malformed
  | _ + 1, [], done => .ok done
  | fuel + 1, (k, v) :: es, done => do
    let k ← value fuel k
    match keyOf? k with
    | none => .error .malformed
    | some key => do
      let v ← value fuel v
      entries fuel es (Value.setEntry key v done)

end

/-! ### Sizes -/

mutual

/-- The number of nodes in a node, and of their pairs. -/
def size : Node → Nat
  | scalar .. => 1
  | sequence _ items => 1 + sizes items
  | mapping _ es => 1 + entrySizes es
termination_by structural n => n

/-- The sum of the sizes of nodes. -/
def sizes : List Node → Nat
  | [] => 1
  | n :: ns => 1 + size n + sizes ns
termination_by structural ns => ns

/-- The sum of the sizes of the nodes in pairs. -/
def entrySizes : List (Node × Node) → Nat
  | [] => 1
  | e :: es => 1 + entrySize e + entrySizes es
termination_by structural es => es

/-- The sum of the sizes of the two nodes of a pair. -/
def entrySize : Node × Node → Nat
  | (k, v) => 1 + size k + size v
termination_by structural e => e

end

end Node

/-- The value of a document, which is nothing if the document is empty. -/
def parse (s : String) : Except Fault Value :=
  match (tokens? s.toList).bind Node.ofTokens? with
  | none => .error .malformed
  | some none => .ok .null
  | some (some n) => n.value (n.size + 1)

end Yaml

end DocPages

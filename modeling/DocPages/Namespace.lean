import DocPages.Grouping
import DocPages.Record.Basic

/-!
# Namespaces

Records are shown by namespace.  An `Entry` is a record with its place among all records, so
that two records that say the same are still told apart.  `Namespace.build` collects what is
shown of a namespace: its constructor, which is the function that has its name, and its
members, static ones first and each part in the order of short names.
-/

namespace DocPages

/-- A record and its place among all records. -/
structure Entry where
  place : Nat
  record : Record
  deriving DecidableEq, Inhabited

namespace Entry

/-- The entries of some records. -/
def ofRecords (rs : List Record) : List Entry :=
  rs.zipIdx.map fun (r, i) => ⟨i, r⟩

/-- The namespace under which a record is shown.  A function of no namespace is its own. -/
def key (e : Entry) : String :=
  e.record.name.outer?.getD e.record.name.shortName

/-- Does the first of two members stand before or beside the second? -/
def before (a b : Entry) : Bool :=
  if a.record.isStatic = b.record.isStatic then
    !(b.record.name.shortName < a.record.name.shortName)
  else a.record.isStatic

end Entry

/-- The entries of each namespace. -/
abbrev Groups := List (String × List Entry)

/-- The entries by namespace. -/
def Groups.ofEntries (es : List Entry) : Groups :=
  groupBy Entry.key es

/-- What is shown of a namespace. -/
structure Namespace where
  name : String
  constructor? : Option Entry
  members : List Entry
  deriving DecidableEq, Inhabited

namespace Namespace

/-- What is shown of the namespace with a name. -/
def build (groups : Groups) (name : String) : Namespace :=
  { name
    constructor? := (groups.flatMap Prod.snd).find? fun e => e.record.name.name == name
    members := (((groups.lookup name).getD []).filter fun e =>
      e.record.name.name != name).mergeSort Entry.before }

/-- The constructor, if there is one, and the members. -/
def allMembers (ns : Namespace) : List Entry :=
  ns.constructor?.toList ++ ns.members

/-- Does any function shown have examples? -/
def hasExamples (ns : Namespace) : Bool :=
  ns.allMembers.any fun e => e.record.hasExamples

/-- Does any function shown have benchmarks? -/
def hasBenchmarks (ns : Namespace) : Bool :=
  ns.allMembers.any fun e => e.record.hasBenchmarks

/-- The first segment of the name, up to a point. -/
def firstSegment (ns : Namespace) : String :=
  String.ofList (ns.name.toList.takeWhile (· != '.'))

end Namespace

end DocPages

import DocPages.Namespace

/-!
# Libraries

A `Library` is all that is documented of a source text: its name, what it is for, its records
and its namespaces.
-/

namespace DocPages

/-- All that is documented of a source text. -/
structure Library where
  name : Option String
  referenceName : Option String
  description : String
  code : String
  namespaces : List Namespace
  records : List Record
  deriving DecidableEq, Inhabited

/-- What a header comment says of a library. -/
structure Summary where
  name : String := ""
  description : String := ""
  deriving DecidableEq, Inhabited

namespace Library

/-- The records that have one of some tags.  If no tags are given and some record is public,
the public ones. -/
def selectRecords (tags : List String) (rs : List Record) : List Record :=
  let tags := if tags.isEmpty && rs.any Record.isPublic then ["public"] else tags
  if tags.isEmpty then rs
  else rs.filter fun r => tags.any fun tag => r.tags.contains tag

/-- The namespaces of some records: those with the given names, or all if none are given. -/
def namespacesOf (names : List String) (rs : List Record) : List Namespace :=
  let groups := Groups.ofEntries (Entry.ofRecords rs)
  (if names.isEmpty then groups.map Prod.fst else names).map (Namespace.build groups)

/-- What a library is called in code: the first segment of its first namespace that has
members. -/
def referenceNameOf (nss : List Namespace) : Option String :=
  (nss.find? fun ns => !ns.members.isEmpty).map Namespace.firstSegment

/-- The library of some records. -/
def build (summary : Summary) (code : String) (names : List String) (rs : List Record) :
    Library :=
  let namespaces := namespacesOf names rs
  let referenceName := referenceNameOf namespaces
  { name := if summary.name.isEmpty then referenceName else some summary.name
    referenceName
    description := summary.description
    code
    namespaces
    records := rs }

end Library

end DocPages

import DocPages.Library.Basic
import DocPages.Record.Value
import DocPages.Settings.Basic

/-!
# Libraries as values

The value by which templates and JSON show a library, and the data of a page: the library, the
scripts and handlers of the settings, and on top the further data that the settings give.
-/

namespace DocPages

/-- A namespace as a value. -/
def Namespace.toValue (ns : Namespace) : Value :=
  .map
    [("namespace", .text ns.name),
      ("constructor", (ns.constructor?.map fun e => e.record.toValue).getD .null),
      ("members", .list (ns.members.map fun e => e.record.toValue)),
      ("all_members", .list (ns.allMembers.map fun e => e.record.toValue)),
      ("has_examples", .bool ns.hasExamples),
      ("has_benchmarks", .bool ns.hasBenchmarks)]

namespace Library

/-- The entries of a library as a value. -/
def toEntries (l : Library) : List (Key × Value) :=
  [("name", .ofText? l.name),
    ("reference_name", .ofText? l.referenceName),
    ("description", .text l.description),
    ("code", .text l.code),
    ("namespaces", .list (l.namespaces.map Namespace.toValue)),
    ("docs", .list (l.records.map Record.toValue))]

/-- A library as a value. -/
def toValue (l : Library) : Value :=
  .map l.toEntries

/-- The library as JSON, without what is nothing. -/
def report (l : Library) : String :=
  l.toValue.withoutNulls.toIndentedJson

end Library

/-- A handler as a value. -/
def Handler.toValue (h : Handler) : Value :=
  .map [("pattern", .text h.pattern.source), ("test", h.test)]

/-- The data of the page of a library. -/
def Settings.pageData (s : Settings) (l : Library) : List (Key × Value) :=
  let own : List (Key × Value) :=
    [("javascripts", .ofTexts s.javascripts),
      ("example_handlers", .list (s.handlers.map Handler.toValue))]
  Value.setEntries (l.toEntries ++ own) s.extraOptions

end DocPages

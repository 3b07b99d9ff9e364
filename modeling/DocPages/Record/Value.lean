import DocPages.Record.Basic
import DocPages.Value.Json

/-!
# Records as values

The values by which templates and JSON show records.  Every field is written, and what is not
there is nothing.
-/

namespace DocPages

/-- A text, or nothing. -/
def Value.ofText? : Option String → Value
  | some s => .text s
  | none => .null

/-- A natural number as a value. -/
def Value.ofNat (n : Nat) : Value := .int n

/-- Texts as a value. -/
def Value.ofTexts (ss : List String) : Value := .list (ss.map .text)

/-- An example as a value. -/
def Example.toValue (e : Example) : Value :=
  .map
    [("id", .ofNat e.number),
      ("input", .text e.input),
      ("input_for_js", .text (escapeQuotes e.input)),
      ("output", .text e.output),
      ("output_for_js", .text (escapeQuotes e.output)),
      ("has_custom_handler", .bool e.handler.isSome),
      ("handler_index", (e.handler.map .ofNat).getD .null),
      ("output_pattern", .ofText? (e.handler.map fun _ => Value.jsonString e.output))]

/-- Examples as a value. -/
def ExampleList.toValue (l : ExampleList) : Value :=
  .map
    [("code", .text l.code), ("setup", .text l.setup),
      ("list", .list (l.items.map Example.toValue))]

/-- A case of a benchmark as a value. -/
def BenchmarkCase.toValue (c : BenchmarkCase) : Value :=
  .map
    [("case_id", .ofNat c.number), ("impl", .text c.code), ("name", .text c.name),
      ("label", .text c.label)]

/-- A benchmark as a value. -/
def Benchmark.toValue (b : Benchmark) : Value :=
  .map
    [("id", .ofNat b.number), ("name", .text b.name),
      ("cases", .list (b.cases.map BenchmarkCase.toValue))]

/-- Benchmarks as a value. -/
def BenchmarkList.toValue (l : BenchmarkList) : Value :=
  .map
    [("code", .text l.code), ("setup", .text l.setup),
      ("cases", .list (l.firstCases.map BenchmarkCase.toValue)),
      ("list", .list (l.items.map Benchmark.toValue))]

/-- A parameter as a value. -/
def Param.toValue (p : Param) : Value :=
  .map
    [("name", .ofText? p.name), ("type", .ofText? p.type), ("description", .text p.description)]

/-- A result as a value. -/
def Returned.toValue (r : Returned) : Value :=
  .map [("type", .ofText? r.type), ("description", .text r.description)]

/-- A record as a value. -/
def Record.toValue (r : Record) : Value :=
  .map
    [("name", .text r.name.name),
      ("short_name", .text r.name.shortName),
      ("identifier", .text r.name.identifier),
      ("namespace", .ofText? r.name.outer?),
      ("description", .text r.description),
      ("params", .list (r.params.map Param.toValue)),
      ("returns", (r.returns.map Returned.toValue).getD .null),
      ("is_constructor", .bool r.isConstructor),
      ("is_static", .bool r.isStatic),
      ("is_public", .bool r.isPublic),
      ("has_signature", .bool r.hasSignature),
      ("signature", .text r.signature),
      ("examples", r.examples.toValue),
      ("has_examples", .bool r.hasExamples),
      ("benchmarks", r.benchmarks.toValue),
      ("has_benchmarks", .bool r.hasBenchmarks),
      ("tags", .ofTexts r.tags),
      ("section_type", .text r.sectionKind)]

end DocPages

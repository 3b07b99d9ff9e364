import DocPages.Doclet.Basic
import DocPages.Grouping
import DocPages.Pair

/-!
# Benchmarks

The cases of a function's benchmarks are the pairs of its `benchmarks` tag: the code that is
measured, and the name of the benchmark, perhaps with a label after a dash.  Cases of one name
make up one benchmark.
-/

namespace DocPages

/-- The text before and after the first occurrence of a divider, or the text alone. -/
def divide (s divider : String) : List String :=
  match Text.splitFirst? divider.toList s.toList with
  | some (before, rest) => [String.ofList before, String.ofList rest]
  | none => [s]

/-- One case of a benchmark. -/
structure BenchmarkCase where
  number : Nat
  code : String
  name : String
  label : String
  deriving DecidableEq, Inhabited

/-- The cases that share a name. -/
structure Benchmark where
  number : Nat
  name : String
  cases : List BenchmarkCase
  deriving DecidableEq, Inhabited

/-- The benchmarks of a function, with the code before them. -/
structure BenchmarkList where
  code : String
  setup : String
  items : List Benchmark
  deriving DecidableEq, Inhabited

namespace BenchmarkCase

/-- The label of a case that gives none. -/
def defaultLabel : String := "Ops/second"

/-- The case of a pair. -/
def ofPair (number : Nat) (pair : Pair) : BenchmarkCase :=
  match divide pair.right " - " with
  | [name, label] =>
    ⟨number, pair.left, name, if label.isEmpty then defaultLabel else label⟩
  | _ => ⟨number, pair.left, pair.right, defaultLabel⟩

end BenchmarkCase

namespace BenchmarkList

/-- The benchmarks of a doclet. -/
def ofDoclet (doc : Doclet) : BenchmarkList :=
  let block := PairBlock.ofText (doc.tagText "benchmarks")
  let cases := block.pairs.zipIdx.map fun (pair, i) => BenchmarkCase.ofPair (i + 1) pair
  { code := block.content
    setup := block.preamble
    items := (groupBy BenchmarkCase.name cases).zipIdx.map fun ((name, cases), i) =>
      ⟨i + 1, name, cases⟩ }

/-- The cases of the first benchmark. -/
def firstCases (b : BenchmarkList) : List BenchmarkCase :=
  match b.items with
  | [] => []
  | first :: _ => first.cases

end BenchmarkList

end DocPages

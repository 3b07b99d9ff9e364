import DocPages.Benchmark
import DocPages.Example
import DocPages.QualifiedName

/-!
# Records

A `Record` is the documentation of one function: its name, what it does, its parameters and
its result, whether it is a constructor and meant for everyone, its examples and benchmarks,
and the titles of its tags.
-/

namespace DocPages

/-- A parameter of a function. -/
structure Param where
  name : Option String
  type : Option String
  description : String
  deriving DecidableEq, Inhabited

/-- The result of a function. -/
structure Returned where
  type : Option String
  description : String
  deriving DecidableEq, Inhabited

/-- The documentation of one function. -/
structure Record where
  name : QualifiedName
  description : String
  params : List Param
  returns : Option Returned
  isConstructor : Bool
  isPublic : Bool
  signature : String
  examples : ExampleList
  benchmarks : BenchmarkList
  tags : List String
  deriving DecidableEq, Inhabited

namespace Record

/-- Is the function a static member? -/
def isStatic (r : Record) : Bool := r.name.isStatic

/-- Is anything said of parameters or the result? -/
def hasSignature (r : Record) : Bool := !r.params.isEmpty || r.returns.isSome

/-- Are there examples? -/
def hasExamples (r : Record) : Bool := !r.examples.items.isEmpty

/-- Are there benchmarks? -/
def hasBenchmarks (r : Record) : Bool := !r.benchmarks.items.isEmpty

/-- What the section of the function is called. -/
def sectionKind (r : Record) : String := if r.isConstructor then "constructor" else "method"

end Record

end DocPages

import DocPages.Doclet.Basic
import DocPages.Pair
import DocPages.Value.Json

/-!
# Examples

The examples of a function are the pairs of its `examples` tag: an input and the output it
gives.  The first handler whose test accepts the output is recorded with an example.
-/

namespace DocPages

/-- The text with a backslash before each single quote, to stand between single quotes. -/
def escapeQuotes (s : String) : String :=
  String.ofList (Text.replaceChar '\'' ['\\', '\''] s.toList)

/-- An input, its output, and the handler of the output if there is one. -/
structure Example where
  number : Nat
  input : String
  output : String
  handler : Option Nat
  deriving DecidableEq, Inhabited

/-- The examples of a function, with the code before them. -/
structure ExampleList where
  code : String
  setup : String
  items : List Example
  deriving DecidableEq, Inhabited

namespace ExampleList

/-- The examples of a doclet, each with the first handler that accepts its output. -/
def ofDoclet (handlers : List (String → Bool)) (doc : Doclet) : ExampleList :=
  let block := PairBlock.ofText (doc.tagText "examples")
  { code := block.content
    setup := block.preamble
    items := block.pairs.zipIdx.map fun (pair, i) =>
      { number := i + 1
        input := pair.left
        output := pair.right
        handler := handlers.findIdx? fun accepts => accepts pair.right } }

end ExampleList

end DocPages

import DocPages.Script.Cursor

/-!
# Operators of scripts

The operators that stand between two phrases, with how tightly they bind, and `joinOperands`,
which makes one phrase of operands and the operators between them.
-/

namespace DocPages

namespace Script

/-- An operator between two phrases: how tightly it binds, and whether of two that bind alike
the second is taken first. -/
structure Operator where
  rank : Nat
  fromRight : Bool := false
  deriving DecidableEq, Inhabited

/-- The operators that are written with signs.  Of two that a text starts with, the longer one
comes first. -/
def signOperators : List (String × Operator) :=
  [(">>>", ⟨9, false⟩), ("===", ⟨7, false⟩), ("!==", ⟨7, false⟩), ("**", ⟨12, true⟩),
    ("&&", ⟨3, false⟩), ("||", ⟨2, false⟩), ("??", ⟨1, false⟩), (">>", ⟨9, false⟩),
    ("<<", ⟨9, false⟩), ("<=", ⟨8, false⟩), (">=", ⟨8, false⟩), ("==", ⟨7, false⟩),
    ("!=", ⟨7, false⟩), ("<", ⟨8, false⟩), (">", ⟨8, false⟩), ("&", ⟨6, false⟩),
    ("^", ⟨5, false⟩), ("|", ⟨4, false⟩), ("+", ⟨10, false⟩), ("-", ⟨10, false⟩),
    ("*", ⟨11, false⟩), ("/", ⟨11, false⟩), ("%", ⟨11, false⟩)]

/-- The operators that are words. -/
def wordOperators : List (String × Operator) :=
  [("in", ⟨8, false⟩), ("instanceof", ⟨8, false⟩)]

/-- The signs that assign the result of an operator. -/
def assigningSigns : List String :=
  [">>>=", "**=", "&&=", "||=", "??=", ">>=", "<<=", "+=", "-=", "*=", "/=", "%=", "&=", "^=",
    "|="]

/-- Two phrases joined by an operator. -/
def joined (left right : Concrete) : Concrete :=
  phrase "binary_expression" (startOf left) (stopOf right)
    [inField "left" left, inField "right" right]

/-- Join the topmost operands of a stack as long as their operator binds more tightly than the
one that follows. -/
private def reduce (next : Option Operator) (top : Concrete) :
    List (Concrete × Operator) → List (Concrete × Operator) × Concrete
  | [] => ([], top)
  | (left, op) :: stack =>
    let first := match next with
      | none => true
      | some n => n.rank < op.rank || (n.rank == op.rank && !n.fromRight)
    if first then reduce next (joined left top) stack else ((left, op) :: stack, top)

/-- Join operands on top of a stack of operands that wait for what is to their right. -/
private def joinOnto (stack : List (Concrete × Operator)) (top : Concrete) :
    List (Operator × Concrete) → Concrete
  | [] => (reduce none top stack).2
  | (op, operand) :: rest =>
    let (stack, left) := reduce (some op) top stack
    joinOnto ((left, op) :: stack) operand rest

/-- One phrase of an operand and those that follow it, each after an operator. -/
def joinOperands (first : Concrete) (rest : List (Operator × Concrete)) : Concrete :=
  joinOnto [] first rest

end Script

end DocPages

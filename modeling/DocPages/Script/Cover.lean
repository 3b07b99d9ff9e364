import DocPages.Script.Semicolon

/-!
# Phrases of two readings

Whether a list in brackets or braces is an expression or a pattern that names are bound by shows
only after it, in the sign that follows.  A `Cover` holds both readings of a phrase, so that
nothing has to be read twice.  The readers of nested phrases are those of a `Grammar`, which is
one level deeper.
-/

namespace DocPages

namespace Script

/-- Where an expression stands: whether its statement may end after it, and whether the word
`in` after it belongs to a loop. -/
structure Place where
  mayEnd : Bool := false
  beforeIn : Bool := false
  deriving DecidableEq, Inhabited

/-- The readings of a phrase: as an expression, as what something is assigned to, and as a
parameter, which may have a default. -/
structure Cover where
  value? : Option Concrete
  target? : Option Concrete := none
  bound? : Option Concrete := target?

/-- Phrases that can be assigned to. -/
def assignable : List String :=
  ["identifier", "undefined", "member_expression", "subscript_expression"]

namespace Cover

/-- The readings of an expression that is no list. -/
def ofValue (e : Concrete) : Cover :=
  { value? := some e, target? := if assignable.contains e.label.kind then some e else none }

/-- The phrase as an expression. -/
def value (c : Cover) : Read Concrete := given c.value?

/-- Is the phrase three points with what they spread? -/
def isSpread (c : Cover) : Bool :=
  c.value?.any (·.label.kind == "spread_element")
    || c.target?.any (·.label.kind == "rest_pattern")

/-- The readings of a list between two places, from those of its items. -/
def ofItems (start stop : Mark) (valueKind targetKind : String)
    (values targets : Option (List Concrete)) : Cover :=
  { value? := values.map (phrase valueKind start stop)
    target? := targets.map (phrase targetKind start stop) }

/-- The readings of an assignment to a phrase, from the place where the phrase starts. -/
def assign (left : Cover) (right : Concrete) (stop : Mark) : Cover :=
  let close (kind : String) (l : Concrete) : Concrete :=
    phrase kind (startOf l) stop [inField "left" l, inField "right" right]
  let parenthesized := left.value?.filter (·.label.kind == "parenthesized_expression")
  { value? := (left.target?.or parenthesized).map (close "assignment_expression")
    bound? := left.target?.map (close "assignment_pattern") }

/-- The readings of three points before a phrase. -/
def spread (start stop : Mark) (c : Cover) : Cover :=
  let rest (t : Concrete) : Concrete := phrase "rest_pattern" start (stopOf t) [t]
  let bound : Concrete → Concrete
    | .node l (left :: right) =>
      if l.kind = "assignment_pattern" then
        phrase l.kind start stop (inField "left" (rest left) :: right)
      else rest (.node l (left :: right))
    | t => rest t
  { value? := c.value?.map fun e => phrase "spread_element" start stop [e]
    target? := c.target?.map rest
    bound? := c.bound?.map bound }

end Cover

/-- Readers of the phrases that stand inside other phrases. -/
structure Grammar where
  statement : Read Concrete
  cover : Place → Read Cover
  operand : Place → Read Cover
  construction : Read Concrete

namespace Grammar

/-- The readers that always fail. -/
def none : Grammar :=
  ⟨failure, fun _ => failure, fun _ => failure, failure⟩

/-- Read a nested expression. -/
def expression (g : Grammar) (p : Place) : Read Concrete := do
  (← g.cover p).value

end Grammar

/-- Read the sign of an assignment. -/
def assignSign : Read Unit := do
  token "="
  ensure (!((← get).rest.head?.any fun c => c == '=' || c == '>'))

/-- A phrase of a kind that is a single word. -/
def wordNode (kind word_ : String) : Read Concrete :=
  node kind (word word_ *> return [])

/-- One phrase as it is, or several as a sequence. -/
def asSequence : List Concrete → Read Concrete
  | [] => failure
  | [e] => return e
  | first :: rest => do
    return phrase "sequence_expression" (startOf first) (← mark) (first :: rest)

/-- Read expressions separated by commas inside a phrase. -/
def innerExpressions (g : Grammar) : Read Concrete := do
  asSequence (← commaList (g.expression {}))

/-! ### Lists -/

/-- Read an item of a list. -/
def listItem (g : Grammar) : Read Cover := do
  let start ← here
  if ← aheadIs "..." then
    token "..."
    let c ← g.cover {}
    return c.spread start (← mark)
  else g.cover {}

/-- The items between two brackets, where the brackets start and where they end. -/
structure Bracketed where
  start : Mark
  stop : Mark
  slots : List (Option Cover)

namespace Bracketed

/-- Read items between two signs. -/
def read (g : Grammar) (left right : String) : Read Bracketed := do
  let start ← here
  token left
  let slots ← Script.slots (listItem g)
  token right
  return ⟨start, ← mark, slots⟩

/-- The items, gaps passed over. -/
def items (b : Bracketed) : List Cover :=
  b.slots.filterMap id

/-- An array, or a pattern for one. -/
def array (b : Bracketed) : Cover :=
  .ofItems b.start b.stop "array" "array_pattern" (b.items.mapM (·.value?))
    (b.items.mapM (·.bound?))

/-- The arguments of a call. -/
def callArguments (b : Bracketed) : Read Concrete := do
  return phrase "arguments" b.start b.stop (← given (b.items.mapM (·.value?)))

/-- The parameters of a function.  A comma may follow the last one. -/
def parameters (b : Bracketed) : Read Concrete := do
  let slots := match b.slots.reverse with
    | .none :: rest => rest.reverse
    | _ => b.slots
  return phrase "formal_parameters" b.start b.stop (← given (slots.mapM fun s => s.bind (·.bound?)))

/-- Expressions in parentheses, none of which may be left out. -/
def parenthesized (b : Bracketed) : Read Concrete := do
  let values ← given (b.slots.mapM fun s => (s.filter fun c => !c.isSpread).bind (·.value?))
  let inner ← given (match values with
    | [] => .none
    | [e] => some e
    | first :: rest =>
      let last := rest.getLast?.getD first
      some (phrase "sequence_expression" (startOf first) (stopOf last) values))
  return phrase "parenthesized_expression" b.start b.stop [inner]

/-- The name of a property that brackets around one expression compute. -/
def computedName (b : Bracketed) : Read Concrete := do
  match b.slots with
  | [some c] =>
    ensure (!c.isSpread)
    return phrase "computed_property_name" b.start b.stop [← c.value]
  | _ => failure

end Bracketed

/-- Read expressions in parentheses. -/
def parenthesized (g : Grammar) : Read Concrete :=
  node "parenthesized_expression" do
    token "("
    let e ← innerExpressions g
    token ")"
    return [e]

/-- Read the parameters of a function. -/
def formalParameters (g : Grammar) : Read Concrete := do
  (← Bracketed.read g "(" ")").parameters

/-- Read the arguments of a call. -/
def callArguments (g : Grammar) : Read Concrete := do
  (← Bracketed.read g "(" ")").callArguments

/-- Read statements in braces. -/
def block (g : Grammar) : Read Concrete :=
  node "statement_block" do
    token "\x7b"
    let body ← many g.statement
    token "\x7d"
    return body

end Script

end DocPages

import DocPages.Script.Group
import DocPages.Script.Member
import DocPages.Script.Operator

/-!
# Expressions of scripts

Readers of expressions.  What a phrase is shows in its first token, except for lists, which are
read as a `Cover`, and for braces after an arrow or at the start of a statement, which may hold
statements or the items of an object.
-/

namespace DocPages

namespace Script

/-! ### Arrows -/

/-- Does a label, or the name of a property, follow the brace that a text starts with? -/
def labelInside : List Char → Bool
  | '\x7b' :: r =>
    let cs := ({ rest := r } : Cursor).skip.rest
    let name := nameOf cs
    let after := ({ rest := cs.drop name.length } : Cursor).skip.rest
    name != "" && !reservedWords.contains name && after.head? == some ':'
  | _ => false

/-- Can what follows the brace that a text starts with be an item of an object, and nothing
else that ends before the next brace? -/
def itemInside : List Char → Bool
  | '\x7b' :: r =>
    let next (cs : List Char) : List Char := ({ rest := cs } : Cursor).skip.rest
    let cs := next r
    match cs with
    | [] => false
    | c :: _ =>
      if "\x7d[*.\"'".toList.contains c || c.isDigit then true
      else
        let name := nameOf cs
        let after := next (cs.drop name.length)
        if name == "" then false
        else
          match after with
          | [] => false
          | d :: _ =>
            d == ':'
              || (["static", "async", "get", "set"].contains name && !"(=;\x7d".toList.contains d)
              || (d == '(' && (afterGroup? after).any fun r => (next r).head? == some '\x7b')
  | _ => false

/-- Read the body of a function after the arrow: statements in braces or an expression.  Braces
around a label and a single expression are an object. -/
def arrowBody (g : Grammar) (p : Place) : Read Concrete := do
  token "=>"
  let cs ← ahead
  let body ← match cs.head? with
    | some '\x7b' =>
      if labelInside cs then g.expression p <|> block g
      else block g <|> (ensure (itemInside cs) *> g.expression p)
    | _ => g.expression p
  return inField "body" body

/-- Read an arrow and what follows it after the parameters of a function. -/
def arrowRest (g : Grammar) (p : Place) (start : Mark) (params : Concrete) : Read Concrete := do
  let body ← arrowBody g p
  return phrase "arrow_function" start (← mark) [params, body]

/-! ### Words and literals -/

/-- Read a part of a text between backticks. -/
def templatePart (g : Grammar) : Read (List Concrete) := do
  match (← get).rest with
  | '$' :: '\x7b' :: _ =>
    let start ← mark
    pass 2
    let e ← innerExpressions g
    token "\x7d"
    return [phrase "template_substitution" start (← mark) [e]]
  | '\\' :: r =>
    let n := escapeLength r
    ensure (n != 0)
    pass (n + 1)
    return []
  | '`' :: _ | [] => failure
  | _ :: r =>
    pass (1 + (r.takeWhile fun c => !(c == '$' || c == '\\' || c == '`')).length)
    return []

/-- Read a text between backticks. -/
def template (g : Grammar) : Read Concrete :=
  node "template_string" do
    token "`"
    let parts ← many (templatePart g)
    ensure ((← get).rest.head? == some '`')
    pass 1
    return parts.flatten

/-- Words that are expressions, each the kind of its phrase. -/
def wordExpressions : List String := ["this", "super", "true", "false", "null", "undefined"]

/-- Is the word a name, where an expression may start? -/
def isOperandName (name : String) : Bool :=
  name == "export" || !(name == "" || name == "yield" || reservedWords.contains name)

/-- Read a name where an expression may start. -/
def operandName : Read Concrete :=
  node "identifier" do
    ensure (isOperandName (← anyWord))
    return []

/-- Read what the word `import` starts inside an expression. -/
def importExpression : Read Concrete := do
  let start ← here
  let e ← wordNode "import" "import"
  if ← aheadIs "." then
    token "."
    word "meta"
    return phrase "meta_property" start (← mark) []
  else
    ensure (← aheadIs "(")
    return e

/-- Read a group in parentheses: the parameters of a function, if an arrow follows, and
otherwise expressions. -/
def groupExpression (g : Grammar) (p : Place) : Read Concrete := do
  let start ← here
  let b ← Bracketed.read g "(" ")"
  if ← aheadIs "=>" then arrowRest g p start (inField "parameters" (← b.parameters))
  else b.parenthesized

/-- Read a name, or a function whose only parameter it is. -/
def nameExpression (g : Grammar) (p : Place) : Read Concrete := do
  let start ← here
  let name ← operandName
  if ← aheadIs "=>" then arrowRest g p start (inField "parameter" name) else return name

/-- Read what starts with the word `async`: a function, a call or the name alone. -/
def asyncExpression (g : Grammar) (p : Place) : Read Concrete := do
  let start ← here
  let before ← get
  let name ← operandName
  if p.mayEnd && (← follows (noSemicolon false)) then return name
  else if ← aheadIs "(" then
    let b ← Bracketed.read g "(" ")"
    if ← aheadIs "=>" then arrowRest g p start (inField "parameters" (← b.parameters))
    else
      let args ← b.callArguments
      return phrase "call_expression" start (← mark)
        [inField "function" name, inField "arguments" args]
  else if (← nextWord) == "function" then
    set before
    functionAs g "function_expression" "generator_function" perhapsName
  else if ← follows (operandName *> token "=>") then
    let param ← operandName
    arrowRest g p start (inField "parameter" param)
  else
    set before
    nameExpression g p

/-- Read an expression that a word starts. -/
def wordExpression (g : Grammar) (p : Place) (first : String) : Read Concrete :=
  if first = "function" then functionAs g "function_expression" "generator_function" perhapsName
  else if first = "class" then classAs g "class" perhapsName
  else if first = "async" then asyncExpression g p
  else if first = "import" then importExpression
  else if wordExpressions.contains first then wordNode first first
  else nameExpression g p

/-- Read an expression with no operators, members or calls. -/
def primary (g : Grammar) (p : Place) : Read Cover := do
  let _ ← here
  match (← get).rest.head? with
  | some '[' => array g
  | some '\x7b' => object g
  | some '(' => .ofValue <$> groupExpression g p
  | some '`' => .ofValue <$> template g
  | some '/' => .ofValue <$> regexLiteral
  | some c =>
    if c == '"' || c == '\'' then .ofValue <$> stringLiteral
    else if c.isDigit || c == '.' then .ofValue <$> number
    else .ofValue <$> wordExpression g p (← nextWord)
  | none => failure

/-! ### Chains of members and calls -/

/-- Read an index in brackets. -/
def index (g : Grammar) : Read Concrete := do
  token "["
  let e ← innerExpressions g
  token "]"
  return inField "index" e

/-- Read the sign of a chain that stops where there is nothing. -/
def optionalChain : Read Concrete :=
  inField "optional_chain" <$> node "optional_chain" (token "?." *> return [])

/-- Read the name of a member after a point. -/
def memberName : Read Concrete := do
  inField "property" <$> (if ← aheadIs "#" then privateName else propertyIdentifier)

/-- Read what makes a longer expression of one: a member, an index, a text between backticks
or, if calls may follow, arguments.  Nothing is read if there is no such thing. -/
def link (g : Grammar) (calls : Bool) (e : Concrete) : Read (Option Concrete) := do
  let close (kind field : String) (children : List Concrete) : Read (Option Concrete) :=
    return some (phrase kind (startOf e) (← mark) (inField field e :: children))
  match ← ahead with
  | '.' :: c :: _ =>
    if c.isDigit then return none
    else
      token "."
      close "member_expression" "object" [← memberName]
  | '[' :: _ => close "subscript_expression" "object" [← index g]
  | '`' :: _ => close "call_expression" "function" [inField "arguments" (← template g)]
  | '(' :: _ =>
    if calls then close "call_expression" "function" [inField "arguments" (← callArguments g)]
    else return none
  | '?' :: '.' :: c :: _ =>
    if c.isDigit then return none
    else
      let sign ← optionalChain
      match (← ahead).head? with
      | some '[' => close "subscript_expression" "object" [sign, ← index g]
      | some '(' =>
        close "call_expression" "function" [sign, inField "arguments" (← callArguments g)]
      | _ => close "member_expression" "object" [sign, ← memberName]
  | _ => return none

/-- `chain`, with at most one link for each character of a text. -/
private def chainWithin (g : Grammar) (calls : Bool) : List Char → Concrete → Read Concrete
  | [], e => return e
  | _ :: fuel, e => do
    match ← link g calls e with
    | some e => chainWithin g calls fuel e
    | none => return e

/-- Go on with an expression as long as there are links. -/
def chain (g : Grammar) (calls : Bool) (e : Concrete) : Read Concrete := do
  chainWithin g calls (← get).rest e

/-- Read a new object.  What is made reaches up to the first arguments; another new object is
what is made only up to its own. -/
def construction (g : Grammar) : Read Concrete := do
  let start ← here
  word "new"
  if ← aheadIs "." then
    token "."
    word "target"
    return phrase "meta_property" start (← mark) []
  else
    let nested := (← nextWord) == "new"
    let made ← if nested then g.construction else (← primary g {}).value
    let whole := nested && made.label.kind == "new_expression" && !(← aheadIs "`")
    let made ← if whole then pure made else chain g false made
    let args ← if ← aheadIs "(" then List.singleton <$> callArguments g else pure []
    return phrase "new_expression" start (← mark)
      (inField "constructor" made :: args.map (inField "arguments"))

/-- Read an expression with the members and calls that follow it. -/
def postfixChain (g : Grammar) (p : Place) : Read Cover := do
  let c ← if (← nextWord) == "new" then .ofValue <$> construction g else primary g p
  match c.value? with
  | none => return c
  | some e =>
    let whole ← chain g true e
    if stopOf whole = stopOf e then return c else return .ofValue whole

/-! ### Operators -/

/-- Does a doubled sign that changes a variable follow, and belong to what is before it? -/
def updateAhead (p : Place) : Read Bool := do
  if (← aheadIs "++") || (← aheadIs "--") then
    return !(p.mayEnd && (← follows (noSemicolon false)))
  else return false

/-- `updates`, with at most one sign for each character of a text. -/
private def updatesWithin (p : Place) : List Char → Concrete → Read Concrete
  | [], e => return e
  | _ :: fuel, e => do
    if ← updateAhead p then
      token "++" <|> token "--"
      updatesWithin p fuel
        (phrase "update_expression" (startOf e) (← mark) [inField "argument" e])
    else return e

/-- Read the doubled signs after an expression. -/
def updates (p : Place) (e : Concrete) : Read Concrete := do
  updatesWithin p (← get).rest e

/-- The sign, of some, that a text starts with. -/
def signAt? (signs : List String) (cs : List Char) : Option String :=
  signs.find? fun s => (Text.after? s.toList cs).isSome

/-- Read an expression that something is perhaps assigned to, or that a doubled sign changes. -/
def assigned (g : Grammar) (p : Place) (updated : Bool) : Read Cover := do
  let c ← postfixChain g p
  let cs ← ahead
  if updated && (← updateAhead p) then .ofValue <$> updates p (← c.value)
  else if ← follows assignSign then
    assignSign
    let right ← g.expression p
    let whole := c.assign right (← mark)
    let _ ← given (whole.value?.or whole.bound?)
    return whole
  else
    match signAt? assigningSigns cs with
    | none => return c
    | some sign =>
      let left ← c.value
      ensure (assignable.contains left.label.kind || left.label.kind == "parenthesized_expression")
      token sign
      let right ← g.expression p
      return .ofValue (phrase "augmented_assignment_expression" (startOf left) (← mark)
        [inField "left" left, inField "right" right])

/-- Read an operator and its operand. -/
def unary (g : Grammar) (p : Place) (kind : String) (sign : Read Unit) : Read Cover := do
  let start ← here
  sign
  let e ← (← g.operand p).value
  return .ofValue (phrase kind start (← mark) [inField "argument" e])

/-- Words that are operators before an operand. -/
def unaryWords : List String := ["typeof", "void", "delete"]

/-- Does an operator with one operand start a text? -/
def startsUnary (cs : List Char) : Bool :=
  (cs.head?.any fun c => "!~-+".toList.contains c)
    || (unaryWords ++ ["await", "yield"]).contains (nameOf cs)

/-- Read a doubled sign and what it changes. -/
def updateBefore (g : Grammar) (p : Place) : Read Cover := do
  let start ← here
  token "++" <|> token "--"
  let e ← if startsUnary (← ahead) then g.operand p else assigned g p false
  let e ← e.value
  .ofValue <$> updates p (phrase "update_expression" start (← mark) [inField "argument" e])

/-- Can an expression start with this text? -/
def startsOperand (cs : List Char) : Bool :=
  match cs with
  | [] => false
  | '+' :: _ | '-' :: _ => true
  | c :: _ =>
    if "!~([\x7b`/\"'#".toList.contains c || c.isDigit then true
    else if c == '.' then (cs.drop 1).head?.any Char.isDigit
    else !(["in", "instanceof", "of"].contains (nameOf cs)) && nameOf cs != ""

/-- Read what a generator gives out. -/
def yieldExpression (g : Grammar) (p : Place) : Read Cover := do
  let start ← here
  word "yield"
  let children ← (do
    if ← aheadIs "*" then
      token "*"
      return [← g.expression p]
    else if p.mayEnd && (← follows (noSemicolon false)) then return []
    else if startsOperand (← ahead) then return [← g.expression p]
    else return [])
  return .ofValue (phrase "yield_expression" start (← mark) children)

/-- Read a private name that is looked for in an object. -/
def privateOperand : Read Cover := do
  let name ← privateName
  ensure ((← nextWord) == "in")
  return { value? := some name }

/-- Read an operand of an operator. -/
def operand (g : Grammar) (p : Place) : Read Cover := do
  let _ ← here
  let cs := (← get).rest
  let first := nameOf cs
  match cs with
  | '!' :: _ => unary g p "unary_expression" (token "!")
  | '~' :: _ => unary g p "unary_expression" (token "~")
  | '-' :: '-' :: _ | '+' :: '+' :: _ => updateBefore g p
  | '-' :: _ => unary g p "unary_expression" (token "-")
  | '+' :: _ => unary g p "unary_expression" (token "+")
  | '#' :: _ => privateOperand
  | _ =>
    if unaryWords.contains first then unary g p "unary_expression" (word first)
    else if first = "await" then unary g p "await_expression" (word first)
    else if first = "yield" then yieldExpression g p
    else assigned g p true

/-- The operator between two operands that a text starts with, and its sign or word. -/
def operatorAt? (p : Place) (cs : List Char) : Option (String × Operator) :=
  let name := nameOf cs
  if name != "" then
    wordOperators.find? fun (w, _) => w == name && !(p.beforeIn && w == "in")
  else
    (signOperators.find? fun (s, _) => (Text.after? s.toList cs).isSome).filter fun (s, _) =>
      !((s == "+" || s == "-") && (cs.drop 1).head? == s.toList.head?)

/-- Read an operator between two operands. -/
def operator (p : Place) : Read Operator := do
  let (sign, op) ← given (operatorAt? p (← ahead))
  modify Cursor.skip
  pass sign.length
  return op

/-- Read the sign before the first choice of a condition. -/
def questionMark : Read Unit := do
  token "?"
  match (← get).rest with
  | '?' :: _ => failure
  | '.' :: r => ensure (r.head?.any Char.isDigit)
  | _ => return ()

/-- Read operands with the operators between them. -/
def operation (g : Grammar) (p : Place) : Read Cover := do
  let first ← operand g p
  let rest ← many (do
    let op ← operator p
    return (op, ← (← operand g p).value))
  if rest.isEmpty then return first
  else return .ofValue (joinOperands (← first.value) rest)

/-- Read an expression, or a pattern that it may turn out to be. -/
def cover (g : Grammar) (p : Place) : Read Cover := do
  let c ← operation g p
  if ← follows questionMark then
    let e ← c.value
    questionMark
    let consequence ← g.expression {}
    token ":"
    let alternative ← g.expression p
    return .ofValue (phrase "ternary_expression" (startOf e) (← mark)
      [inField "condition" e, inField "consequence" consequence,
        inField "alternative" alternative])
  else return c

/-- Read an expression. -/
def expression (g : Grammar) (p : Place) : Read Concrete := do
  (← cover g p).value

/-- Read expressions separated by commas. -/
def expressions (g : Grammar) (p : Place) : Read Concrete := do
  asSequence (← commaList (expression g p))

end Script

end DocPages

import DocPages.Script.Declaration

/-!
# Statements of scripts

Readers of statements.  The first word or sign of a statement tells what it is.
-/

namespace DocPages

namespace Script

/-- Read expressions in parentheses as a field. -/
def inParentheses (g : Grammar) (field : String) : Read Concrete :=
  inField field <$> parenthesized g

/-- Read a statement as a field. -/
def bodyOf (g : Grammar) : Read Concrete :=
  inField "body" <$> g.statement

/-! ### Loops -/

/-- Read the rest of the head of a loop that counts, after how it starts. -/
def countingRest (g : Grammar) (start : Concrete) : Read (String × List Concrete) := do
  let condition ← node "empty_statement" (token ";" *> return [])
    <|> (innerExpressions g <* token ";")
  let step ← if ← aheadIs ")" then pure [] else List.singleton <$> innerExpressions g
  token ")"
  return ("for_statement", [inField "initializer" start, inField "condition" condition]
    ++ step.map (inField "increment"))

/-- Is a loop over the items of something, whose variable has been read? -/
def itemsAhead : Read Bool := do
  let first ← nextWord
  return first == "in" || first == "of"

/-- Read the rest of the head of a loop over the items of something. -/
def itemsRest (g : Grammar) (left : List Concrete) : Read (String × List Concrete) := do
  word "in" <|> word "of"
  let right ← innerExpressions g
  token ")"
  return ("for_in_statement", left ++ [inField "right" right])

/-- Read the head of a loop that declares variables with a word. -/
def declaringHead (g : Grammar) (word_ kind : String) : Read (String × List Concrete) := do
  let start ← here
  word word_
  let name ← binding g
  let left := inField "left" name
  if (← itemsAhead) && !(word_ = "var" && (← follows (noSemicolon true))) then
    itemsRest g [left]
  else
    let before ← get
    let first ← declaratorRest g { mayEnd := true, beforeIn := true } name
    if !lacksValue first && (← itemsAhead) then
      -- The word belongs to the loop, or else to the value.
      (do
        ensure (word_ = "var")
        itemsRest g (left :: first.children.drop 1))
      <|> (do
        set before
        let first ← declaratorRest g { mayEnd := true } name
        countingRest g (← declarationRest g kind start first))
    else countingRest g (← declarationRest g kind start first)

/-- Read the head of a loop that starts with an expression or with nothing. -/
def plainHead (g : Grammar) : Read (String × List Concrete) := do
  if ← aheadIs ";" then
    countingRest g (← node "empty_statement" (token ";" *> return []))
  else
    let counting : Read (String × List Concrete) := do
      countingRest g (← innerExpressions g <* token ";")
    let before ← get
    let c ← cover g { beforeIn := true }
    if ← itemsAhead then
      let parenthesized := c.value?.filter (·.label.kind == "parenthesized_expression")
      match c.target?.or parenthesized with
      | some left => itemsRest g [inField "left" left] <|> (set before *> counting)
      | none =>
        set before
        counting
    else
      let first ← c.value
      let rest ← many (token "," *> g.expression {})
      let start ← asSequence (first :: rest)
      token ";"
      countingRest g start

/-- Read a loop that starts with the word `for`. -/
def forLoop (g : Grammar) : Read Concrete := do
  let start ← here
  word "for"
  let await ← perhaps (word "await")
  token "("
  let first ← nextWord
  let declares ← if first = "let" then follows (do
      word first
      ensure (← variableAhead))
    else pure (first = "var" || first = "const")
  let (kind, head) ← match (if declares then variableKind? first else none) with
    | some kind => declaringHead g first kind
    | none => plainHead g
  ensure (await.isNone || kind == "for_in_statement")
  let body ← bodyOf g
  return phrase kind start (← mark) (head ++ [body])

/-- Read a loop whose condition is before its body. -/
def whileLoop (g : Grammar) : Read Concrete :=
  node "while_statement" do
    word "while"
    let condition ← inParentheses g "condition"
    return [condition, ← bodyOf g]

/-- Read a loop whose condition is after its body. -/
def doLoop (g : Grammar) : Read Concrete :=
  node "do_statement" do
    word "do"
    let body ← bodyOf g
    word "while"
    let condition ← inParentheses g "condition"
    let _ ← perhaps (finish true)
    return [body, condition]

/-! ### Choices -/

/-- Read a choice between two statements. -/
def ifStatement (g : Grammar) : Read Concrete :=
  node "if_statement" do
    word "if"
    let condition ← inParentheses g "condition"
    let consequence ← g.statement
    let alternative ← perhaps (node "else_clause" do
      word "else"
      return [← g.statement])
    return [condition, inField "consequence" consequence]
      ++ (alternative.map (inField "alternative")).toList

/-- Read one case of a switch. -/
def switchItem (g : Grammar) : Read Concrete :=
  let body : Read (List Concrete) := (List.map (inField "body")) <$> many g.statement
  (node "switch_case" do
    word "case"
    let value ← innerExpressions g
    token ":"
    return inField "value" value :: (← body))
  <|> (node "switch_default" do
    word "default"
    token ":"
    body)

/-- Read a switch. -/
def switchStatement (g : Grammar) : Read Concrete :=
  node "switch_statement" do
    word "switch"
    let value ← inParentheses g "value"
    let body ← node "switch_body" do
      token "\x7b"
      let items ← many (switchItem g)
      token "\x7d"
      return items
    return [value, inField "body" body]

/-- Read statements whose failure is caught. -/
def tryStatement (g : Grammar) : Read Concrete :=
  node "try_statement" do
    word "try"
    let body ← block g
    let handler ← perhaps (node "catch_clause" do
      word "catch"
      let parameter ← perhaps (token "(" *> binding g <* token ")")
      let body ← block g
      return (parameter.map (inField "parameter")).toList ++ [inField "body" body])
    let finalizer ← perhaps (node "finally_clause" do
      word "finally"
      return [inField "body" (← block g)])
    return [inField "body" body] ++ (handler.map (inField "handler")).toList
      ++ (finalizer.map (inField "finalizer")).toList

/-! ### Statements that leave a place -/

/-- Read a statement that starts with a word and leaves the place, perhaps to a label. -/
def leaving (kind word_ : String) : Read Concrete :=
  node kind do
    word word_
    if ← follows (finish true) then
      finish true
      return []
    else
      let label ← nameAs "statement_identifier"
      finish true
      return [inField "label" label]

/-- Read a statement that gives back a value or nothing. -/
def returnStatement (g : Grammar) : Read Concrete :=
  node "return_statement" do
    word "return"
    if ← follows (finish true) then
      finish true
      return []
    else
      let e ← expressions g { mayEnd := true }
      finish false
      return [e]

/-- Read a statement that raises a value. -/
def throwStatement (g : Grammar) : Read Concrete :=
  node "throw_statement" do
    word "throw"
    let e ← expressions g { mayEnd := true }
    finish false
    return [e]

/-! ### Other statements -/

/-- Read a statement for a debugger. -/
def debuggerStatement : Read Concrete :=
  node "debugger_statement" do
    word "debugger"
    finish true
    return []

/-- Read a statement about the members of an object. -/
def withStatement (g : Grammar) : Read Concrete :=
  node "with_statement" do
    word "with"
    let object ← inParentheses g "object"
    return [object, ← bodyOf g]

/-- Read a statement with a label. -/
def labeled (g : Grammar) : Read Concrete :=
  node "labeled_statement" do
    let label ← nameAs "statement_identifier"
    token ":"
    return [inField "label" label, ← bodyOf g]

/-- Read a statement that is an expression. -/
def expressionStatement (g : Grammar) : Read Concrete :=
  node "expression_statement" do
    let e ← expressions g { mayEnd := true }
    finish false
    return [e]

/-- Does a text go on with an expression before it, where no statement can start? -/
def onlyGoesOn (cs : List Char) : Bool :=
  (cs.head?.any fun c => "=.?*%&|^<>,".toList.contains c)
    || ["in", "instanceof"].contains (nameOf cs)

/-- Read a statement that starts with a brace: statements in braces, unless only the items of
an object can be in them or only an expression can go on after them.  Braces around a label and
a single expression are an object. -/
def braceStatement (g : Grammar) : Read Concrete := do
  let cs ← ahead
  if labelInside cs then expressionStatement g <|> block g
  else
    let before ← get
    match ← perhaps (block g) with
    | some b =>
      if itemInside cs && onlyGoesOn (← ahead) then
        set before
        expressionStatement g
      else return b
    | none =>
      ensure (itemInside cs)
      expressionStatement g

/-- Read a statement that starts with a word that is no statement's own. -/
def plainStatement (g : Grammar) (first : String) : Read Concrete := do
  let colon ← follows (pass first.length *> token ":")
  if colon && !wordExpressions.contains first then labeled g else expressionStatement g

/-- Read a statement that starts with a word. -/
def wordStatement (g : Grammar) (first : String) : Read Concrete := do
  if ← declares then declaration g
  else
    match first with
    | "if" => ifStatement g
    | "for" => forLoop g
    | "while" => whileLoop g
    | "do" => doLoop g
    | "switch" => switchStatement g
    | "try" => tryStatement g
    | "return" => returnStatement g
    | "throw" => throwStatement g
    | "break" => leaving "break_statement" first
    | "continue" => leaving "continue_statement" first
    | "debugger" => debuggerStatement
    | "with" => withStatement g
    | "export" => if ← exportsHere then exportStatement g else plainStatement g first
    | "import" =>
      let expression ← follows (word first *> (token "(" <|> token "."))
      if expression then expressionStatement g else importStatement g
    | _ => plainStatement g first

/-- Read a statement. -/
def statement (g : Grammar) : Read Concrete := do
  let _ ← here
  let cs := (← get).rest
  match cs.head? with
  | some '\x7b' => braceStatement g
  | some ';' => node "empty_statement" (token ";" *> return [])
  | some _ =>
    let first := nameOf cs
    if first = "" then expressionStatement g else wordStatement g first
  | none => failure

end Script

end DocPages

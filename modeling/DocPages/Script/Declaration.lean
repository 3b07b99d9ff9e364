import DocPages.Script.Expression

/-!
# Declarations of scripts

Readers of declarations, of what is exported and of what is imported.
-/

namespace DocPages

namespace Script

/-! ### Variables -/

/-- Read the value of a variable whose name has been read. -/
def declaratorRest (g : Grammar) (p : Place) (name : Concrete) : Read Concrete := do
  let names := [inField "name" name]
  let value ← (do
    if ← follows (noSemicolon true) then return []
    else if ← follows assignSign then
      assignSign
      return [inField "value" (← expression g p)]
    else return [])
  return phrase "variable_declarator" (startOf name) (← mark) (names ++ value)

/-- Has a variable of a declaration no value? -/
def lacksValue (declarator : Concrete) : Bool :=
  declarator.children.length == 1

/-- The variables after the first one of a declaration, at most one for each character of a
text. -/
private def declaratorsWithin (g : Grammar) (p : Place) :
    List Char → Concrete → Read (List Concrete)
  | [], last => return [last]
  | _ :: fuel, last => do
    if lacksValue last && (← follows (noSemicolon true)) then return [last]
    else if ← aheadIs "," then
      token ","
      let name ← binding g
      let next ← declaratorRest g p name
      return last :: (← declaratorsWithin g p fuel next)
    else return [last]

/-- Read the variables of a declaration after the first one, and its end. -/
def declarationRest (g : Grammar) (kind : String) (start : Mark) (first : Concrete) :
    Read Concrete := do
  let all ← declaratorsWithin g { mayEnd := true } (← get).rest first
  finish ((all.getLast?.map lacksValue).getD false)
  return phrase kind start (← mark) all

/-- The kind of declaration that a word starts. -/
def variableKind? (word_ : String) : Option String :=
  if word_ = "var" then some "variable_declaration"
  else if word_ = "let" || word_ = "const" then some "lexical_declaration"
  else none

/-- Read a declaration of variables. -/
def variableDeclaration (g : Grammar) : Read Concrete := do
  let start ← here
  let first ← anyWord
  let kind ← given (variableKind? first)
  let name ← binding g
  declarationRest g kind start (← declaratorRest g { mayEnd := true } name)

/-- Can a variable be declared here, after the word `let`? -/
def variableAhead : Read Bool := do
  let cs ← ahead
  let name := nameOf cs
  return (cs.head?.any fun c => c == '[' || c == '\x7b')
    || (name != "" && name != "in" && name != "instanceof")

/-! ### Functions and classes -/

/-- Read a declaration of a function. -/
def functionDeclaration (g : Grammar) : Read Concrete :=
  functionAs g "function_declaration" "generator_function_declaration" oneName

/-- Read a declaration of a class. -/
def classDeclaration (g : Grammar) : Read Concrete :=
  classAs g "class_declaration" oneName

/-- Read the start of a function that has a name. -/
def namedFunctionHead : Read Unit := do
  word "function"
  let _ ← perhaps (token "*")
  let _ ← identifier

/-- Does a declaration start here?  A word that may be a name declares nothing if its statement
may end after it. -/
def declares : Read Bool := do
  let first ← nextWord
  let goesOn : Read Unit := do ensure (!(← follows (noSemicolon false)))
  if first = "var" || first = "const" then return true
  else if first = "let" then
    follows (do
      word first
      goesOn
      ensure (← variableAhead))
  else if first = "function" then follows namedFunctionHead
  else if first = "class" then follows (word first *> identifier)
  else if first = "async" then follows (word first *> goesOn *> namedFunctionHead)
  else return false

/-- Read a declaration. -/
def declaration (g : Grammar) : Read Concrete := do
  let first ← nextWord
  if first = "class" then classDeclaration g
  else if first = "function" || first = "async" then functionDeclaration g
  else variableDeclaration g

/-! ### Exports and imports -/

/-- Read the source of what is imported. -/
def fromClause : Read Concrete := do
  word "from"
  return inField "source" (← stringLiteral)

/-- Read a name by which something is exported. -/
def exportName : Read Concrete :=
  identifier <|> stringLiteral <|> (wordNode "default" "default")

/-- Read a list of names in braces, each perhaps with a second name. -/
def specifiers (kind item : String) (name alias_ : Read Concrete) : Read Concrete :=
  node kind do
    token "\x7b"
    let items ← looseList (node item do
      let first ← name
      let second ← perhaps (word "as" *> alias_)
      return inField "name" first :: (second.map (inField "alias")).toList)
    token "\x7d"
    return items

/-- Read what is exported by name. -/
def exportedNames : Read (List Concrete) := do
  let parts ← (do
      let ns ← node "namespace_export" (do
        token "*"
        word "as"
        return [← exportName])
      return [ns, ← fromClause])
    <|> (do
      token "*"
      return [← fromClause])
    <|> (do
      let clause ← specifiers "export_clause" "export_specifier" exportName exportName
      return clause :: (← perhaps fromClause).toList)
  finish true
  return parts

/-- Does what follows the word `export` tell what is exported? -/
def exportsHere : Read Bool :=
  follows do
    word "export"
    ensure (!(← follows (noSemicolon false)))
    let cs ← ahead
    ensure ((cs.head?.any fun c => c == '*' || c == '\x7b')
      || ["default", "var", "let", "const", "function", "class", "async"].contains (nameOf cs))

/-- Read an export. -/
def exportStatement (g : Grammar) : Read Concrete :=
  node "export_statement" do
    word "export"
    let first ← nextWord
    if first = "" then exportedNames
    else if first = "default" then
      word first
      if ← declares then return [inField "declaration" (← declaration g)]
      else
        let value ← expression g { mayEnd := true }
        finish false
        return [inField "value" value]
    else return [inField "declaration" (← declaration g)]

/-- Read what is asked of the source of an import. -/
def importAttribute (g : Grammar) : Read (List Concrete) := do
  if (← follows (noSemicolon true)) || (← nextWord) != "with" then return []
  else
    let a ← node "import_attribute" do
      word "with"
      return [← (← object g).value]
    return [a]

/-- Read an import. -/
def importStatement (g : Grammar) : Read Concrete :=
  let all := node "namespace_import" do
    token "*"
    word "as"
    return [← identifier]
  let named := specifiers "named_imports" "import_specifier" exportName identifier
  let clause := node "import_clause"
    ((do return [← all <|> named])
      <|> (do
        let first ← identifier
        let more ← perhaps (token "," *> (all <|> named))
        return first :: more.toList))
  node "import_statement" do
    word "import"
    let parts ← (do
        let c ← clause
        return [c, ← fromClause])
      <|> (do return [inField "source" (← stringLiteral)])
    let asked ← importAttribute g
    finish true
    return parts ++ asked

end Script

end DocPages

import DocPages.Page.Slot

/-!
# The layout of the page

`layout` puts the data of a library into the page that comes with the program: a list of links
to all functions, and a section for each namespace with an article for each function.  The page
is a list of pieces, so that the links and the places they lead to can be told from the rest.
-/

namespace DocPages.Page

/-- A piece of a page: markup as it is written, text that is data, a link to a place on the page,
or the name of a place. -/
inductive Piece where
  | text (s : String)
  | data (s : String)
  | link (target : String)
  | place (name : String)
  deriving DecidableEq, Inhabited

namespace Piece

/-- Data as it stands in markup, where it may be escaped. -/
def dataMarkup (escape : Bool) (s : String) : String :=
  if escape then Markup.escapeAttribute s else s

/-- The markup of a piece. -/
def toMarkup (escape : Bool) : Piece → String
  | text s => s
  | data s => dataMarkup escape s
  | link target => "href=\"#" ++ dataMarkup escape target ++ "\""
  | place name => "id=\"" ++ dataMarkup escape name ++ "\""

end Piece

/-- The markup of a page. -/
def toMarkup (escape : Bool) (ps : List Piece) : String :=
  String.join (ps.map (Piece.toMarkup escape))

/-- The targets of the links of a page. -/
def targets (ps : List Piece) : List String :=
  ps.filterMap fun
    | .link t => some t
    | _ => none

/-- The places of a page. -/
def places (ps : List Piece) : List String :=
  ps.filterMap fun
    | .place n => some n
    | _ => none

/-- One line of text. -/
def line (s : String) : Piece := .text (s ++ "\n")

/-- One line of text with data in it. -/
def lineWith (before : String) (s : Slot) (after : String) : List Piece :=
  [.text before, .data s.raw, line after]

/-- The pieces of each item, one after the other. -/
def forEach (vs : List Value) (pieces : Value → Except PageError (List Piece)) :
    Except PageError (List Piece) :=
  (vs.mapM pieces).map List.flatten

/-- The pieces if the condition holds. -/
def onlyIf (b : Bool) (pieces : Except PageError (List Piece)) : Except PageError (List Piece) :=
  if b then pieces else .ok []

/-- The name of the place of a namespace. -/
def namespacePlace (ns : Value) : String :=
  String.ofList ((Slot.ofValue ns "namespace").raw.toList.map fun c => if c = '.' then '-' else c)

/-- The name of the place of a function. -/
def memberPlace (member : Value) : String :=
  (Slot.ofValue member "identifier").raw

/-! ### The head -/

/-- A handler of examples in the script of the page. -/
def handlerPieces (isLast : Bool) (handler : Value) : Except PageError (List Piece) := do
  let pattern ← (Slot.ofValue handler "pattern").json
  let test := Slot.ofValue handler "test"
  let test := if test.holds then test.raw else "null"
  return [line ("      \x7b pattern: new RegExp(" ++ pattern ++ "), test: " ++ test ++ " \x7d"
    ++ if isLast then "" else ",")]

/-- The handlers of examples in the script of the page. -/
def handlersPieces : List Value → Except PageError (List Piece)
  | [] => .ok []
  | h :: hs => do
    let first ← handlerPieces hs.isEmpty h
    return first ++ (← handlersPieces hs)

/-- The head of the page. -/
def headPieces (data : List (Key × Value)) : Except PageError (List Piece) := do
  let slot := Slot.ofData data
  let title := (slot "title").orElse ((slot "name").orElse (.filled (.text "")))
  let scripts ← forEach (← (slot "javascripts").items) fun script =>
    return lineWith "  <script type=\"text/javascript\" src=\"" (.filled script) "\"></script>"
  let handlers := slot "example_handlers"
  let handlers ← onlyIf handlers.holds do
    let hs ← handlersPieces (← handlers.items)
    return [line "  <script type=\"text/javascript\">", line "    var exampleHandlers = ["] ++ hs
      ++ [line "    ];", line "  </script>"]
  return [line "<!DOCTYPE html>", line "<html>", line "<head>", line "  <meta charset=\"utf-8\">"]
    ++ lineWith "  <title>" title " API Docs</title>" ++ scripts ++ handlers ++ [line "</head>"]

/-! ### Links to all functions -/

/-- The link to a function. -/
def memberLinkPieces (member : Value) : List Piece :=
  [.text "          <li><a ", .link (memberPlace member)]
    ++ lineWith ">" (.ofValue member "short_name") "</a></li>"

/-- The links to the functions of a namespace. -/
def namespaceLinkPieces (ns : Value) : Except PageError (List Piece) := do
  let members ← forEach (← (Slot.ofValue ns "all_members").items) fun m =>
    return memberLinkPieces m
  return [line "      <li>", .text "        <a ", .link (namespacePlace ns)]
    ++ lineWith ">" (.ofValue ns "namespace") "</a>" ++ [line "        <ul>"] ++ members
    ++ [line "        </ul>", line "      </li>"]

/-- The list of links. -/
def navigationPieces (data : List (Key × Value)) : Except PageError (List Piece) := do
  let nss ← forEach (← (Slot.ofData data "namespaces").items) namespaceLinkPieces
  return [line "  <nav>", line "    <ul>"] ++ nss ++ [line "    </ul>", line "  </nav>", line ""]

/-! ### Articles -/

/-- The row of a parameter. -/
def paramPieces (param : Value) : List Piece :=
  let slot := Slot.ofValue param
  [line "          <tr>"] ++ lineWith "            <td>" (slot "name") "</td>"
    ++ lineWith "            <td>" ((slot "type").orElse (.filled (.text ""))) "</td>"
    ++ [line ("            <td>" ++ (slot "description").raw ++ "</td>"), line "          </tr>"]

/-- The table of parameters. -/
def paramsPieces (member : Value) : Except PageError (List Piece) :=
  let params := Slot.ofValue member "params"
  onlyIf params.holds do
    let rows ← forEach (← params.items) fun p => return paramPieces p
    return [line "        <table class=\"params\">",
        line "          <tr><th>Name</th><th>Type(s)</th><th>Description</th></tr>"]
      ++ rows ++ [line "        </table>"]

/-- What is said of the result. -/
def returnsPieces (member : Value) : Except PageError (List Piece) :=
  let returns := Slot.ofValue member "returns"
  onlyIf returns.holds do
    let type ← returns.part "type"
    let description ← returns.part "description"
    return [line "        <p class=\"returns\">"]
      ++ lineWith "          Returns <code>" (type.orElse (.filled (.text ""))) "</code>"
      ++ [line ("          " ++ description.raw), line "        </p>"]

/-- The row of an example. -/
def examplePieces (member item : Value) : List Piece :=
  let slot := Slot.ofValue item
  [.text "            <tr ", .place ("example-" ++ memberPlace member ++ "-" ++ (slot "id").raw),
      line ""]
    ++ (if (slot "has_custom_handler").holds then
      lineWith "data-handler=\"" (slot "handler_index") "\">" else [line ">"])
    ++ lineWith "              <td><code>" (slot "input") "</code></td>"
    ++ lineWith "              <td><code>" (slot "output") "</code></td>"
    ++ [line "            </tr>"]

/-- The examples of a function. -/
def examplesPieces (member : Value) : Except PageError (List Piece) :=
  onlyIf (Slot.ofValue member "has_examples").holds do
    let examples := Slot.ofValue member "examples"
    let setup ← examples.part "setup"
    let rows ← forEach (← (← examples.part "list").items) fun e => return examplePieces member e
    return [line "        <div class=\"examples\">", line "          <h4>Examples</h4>"]
      ++ (if setup.holds then lineWith "          <pre class=\"setup\">" setup "</pre>" else [])
      ++ [line "          <table>"] ++ rows ++ [line "          </table>", line "        </div>"]

/-- The row of a case of a benchmark. -/
def casePieces (member case_ : Value) : List Piece :=
  let slot := Slot.ofValue case_
  [.text "            <tr ",
      .place ("benchmark-case-" ++ memberPlace member ++ "-" ++ (slot "case_id").raw), line ">"]
    ++ lineWith "              <td><code>" (slot "impl") "</code></td>"
    ++ lineWith "              <td>" (slot "label") "</td>" ++ [line "            </tr>"]

/-- The table of a benchmark. -/
def benchmarkPieces (member benchmark : Value) : Except PageError (List Piece) := do
  let slot := Slot.ofValue benchmark
  let rows ← forEach (← (slot "cases").items) fun c => return casePieces member c
  return [.text "          <table ",
      .place ("benchmark-" ++ memberPlace member ++ "-" ++ (slot "id").raw), line ">"]
    ++ lineWith "            <caption>" (slot "name") "</caption>" ++ rows
    ++ [line "          </table>"]

/-- The benchmarks of a function. -/
def benchmarksPieces (member : Value) : Except PageError (List Piece) :=
  onlyIf (Slot.ofValue member "has_benchmarks").holds do
    let benchmarks := Slot.ofValue member "benchmarks"
    let tables ← forEach (← (← benchmarks.part "list").items) (benchmarkPieces member)
    return [line "        <div class=\"benchmarks\">", line "          <h4>Benchmarks</h4>"]
      ++ tables ++ [line "        </div>"]

/-- The article of a function. -/
def articlePieces (member : Value) : Except PageError (List Piece) := do
  let slot := Slot.ofValue member
  let params ← paramsPieces member
  let returns ← returnsPieces member
  let examples ← examplesPieces member
  let benchmarks ← benchmarksPieces member
  return [.text "      <article class=\"", .data (slot "section_type").raw, .text "\" ",
      .place (memberPlace member), line ">"]
    ++ lineWith "        <h3>" (slot "name") "</h3>"
    ++ (if (slot "has_signature").holds then
      lineWith "        <pre class=\"signature\">" (slot "signature") "</pre>" else [])
    ++ [line ("        <div class=\"description\">" ++ (slot "description").raw ++ "</div>"),
      line ""]
    ++ params ++ [line ""] ++ returns ++ [line ""] ++ examples ++ [line ""] ++ benchmarks
    ++ [line "      </article>"]

/-- The section of a namespace. -/
def sectionPieces (ns : Value) : Except PageError (List Piece) := do
  let articles ← forEach (← (Slot.ofValue ns "all_members").items) articlePieces
  return [.text "    <section class=\"namespace\" ", .place (namespacePlace ns), line ">"]
    ++ lineWith "      <h2>" (.ofValue ns "namespace") "</h2>" ++ articles
    ++ [line "    </section>"]

/-- The main part of the page. -/
def mainPieces (data : List (Key × Value)) : Except PageError (List Piece) := do
  let sections ← forEach (← (Slot.ofData data "namespaces").items) sectionPieces
  return [line "  <main>"] ++ sections ++ [line "  </main>"]

/-- The page. -/
def layout (data : List (Key × Value)) : Except PageError (List Piece) := do
  let slot := Slot.ofData data
  let head ← headPieces data
  let navigation ← navigationPieces data
  let main ← mainPieces data
  return head
    ++ [line "<body>", line "  <header>"]
    ++ lineWith "    <h1>" ((slot "name").orElse (.filled (.text ""))) "</h1>"
    ++ [line ("    <div class=\"description\">" ++ (slot "description").raw ++ "</div>"),
      line "  </header>", line ""]
    ++ navigation ++ main ++ [line "</body>", .text "</html>"]

end DocPages.Page

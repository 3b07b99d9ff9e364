import DocPages.Library.Extract
import DocPages.Library.Value
import DocPages.Markup.Markdown
import DocPages.Page.Template
import DocPages.Script.Reader

/-!
# Documentation of a script

`Library.ofSource` finds what is documented in a script, and `Library.page` is the page that
shows it.
-/

namespace DocPages

namespace Library

/-- What is documented in a script, whose syntax tree `toTree` finds. -/
def ofSource (settings : Settings) (render : Renderer) (code : String)
    (toTree : String → Except SourceError Tree := Script.toTree) :
    List Notice × Except ExtractError Library :=
  match toTree code with
  | .error e => ([], .error (.source e))
  | .ok t => ofTree settings render code t

/-- The page of a library. -/
def page (settings : Settings) (dir : Page.TemplateDir) (l : Library) :
    Except Page.PageError String :=
  Page.render dir settings.template (settings.pageData l)

end Library

end DocPages

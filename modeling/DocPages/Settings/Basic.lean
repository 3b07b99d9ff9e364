import DocPages.Pattern.Basic
import DocPages.Value.Basic

/-!
# Settings

What can be chosen about documentation: the namespaces that are shown, the tags that a
function must have, the scripts and the template of the page, handlers of examples, and
further data for the template.
-/

namespace DocPages

/-- A handler of the examples whose output a pattern matches, with the script that checks
them. -/
structure Handler where
  pattern : Pattern
  test : Value := .text ""
  deriving Inhabited

/-- The template of the page unless another one is chosen. -/
def defaultTemplate : String := "api.html"

/-- What can be chosen.  No namespaces stand for all, and no tags for none asked. -/
structure Settings where
  namespaces : List String := []
  tags : List String := []
  javascripts : List String := []
  template : Value := .text defaultTemplate
  templateDir : Option String := none
  handlers : List Handler := []
  extraOptions : List (Key × Value) := []
  deriving Inhabited

/-- What the handlers accept. -/
def Settings.tests (s : Settings) : List (String → Bool) :=
  s.handlers.map fun h => h.pattern.search

end DocPages

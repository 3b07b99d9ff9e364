import DocPages.Doclet.Reader

/-!
# Notices

What is worth saying while documentation is made, although nothing has failed: a comment or a
function that is passed over, and a settings file that is not used.
-/

namespace DocPages

/-- How much a notice matters. -/
inductive Level where
  | debug
  | warning
  deriving DecidableEq, Inhabited

/-- The name of a level. -/
def Level.label : Level → String
  | debug => "DEBUG"
  | warning => "WARNING"

/-- Something worth saying.  Lines count from zero. -/
inductive Notice where
  | unreadable (line : Int) (reason : CommentError)
  | undescribed (line : Int)
  | unnamed (line : Int)
  | ignoredSettings (path reason : String)

namespace Notice

/-- How much the notice matters. -/
def level : Notice → Level
  | ignoredSettings .. => .warning
  | _ => .debug

/-- The part of the program that the notice comes from. -/
def topic : Notice → String
  | unreadable .. | undescribed _ => "autodoc.associator"
  | unnamed _ => "autodoc.library"
  | ignoredSettings .. => "autodoc.config"

/-- What the notice says. -/
def message : Notice → String
  | unreadable line reason =>
    "Skipping unparsable comment at line " ++ toString line ++ ": " ++ reason.message
  | undescribed line => "Skipping comment without description at line " ++ toString line
  | unnamed line => "Skipping unnamed function at line " ++ toString line
  | ignoredSettings path reason =>
    "Ignoring invalid config file " ++ path ++ " (" ++ reason ++ "), using defaults"

end Notice

end DocPages

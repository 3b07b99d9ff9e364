import DocPages.Notice
import DocPages.Path
import DocPages.Pattern.Reader
import DocPages.Settings.Basic
import DocPages.Yaml.Reader

/-!
# Reading settings

`Settings.ofValue` takes settings from the value of a document, and `Settings.load` from a
settings file.  If anything in the file is wrong, none of it is used: the settings are those of
no file, and a notice says why.  A few faults are not put up with.

The patterns of handlers are read by a `PatternReader`.  It is `Pattern.parse` unless another one
is given.
-/

namespace DocPages

/-- What is wrong with the value of a settings file. -/
inductive SettingsError where
  | notList (v : Value)
  | optionsNotMap
  | handlerNotMap
  | handlersNotList (v : Value)
  | noPattern
  | badPattern (v : Value)
  | hugePattern
  | badDirectory (v : Value)
  | document (f : Yaml.Fault)
  | unreadable (reason : String)
  deriving Inhabited

/-- What is said of settings that are not used. -/
def SettingsError.message : SettingsError → String
  | notList v => "Expected a list, got " ++ v.kindName
  | optionsNotMap => "extra_options must be a mapping"
  | handlerNotMap => "Each example handler must be a mapping"
  | handlersNotList v => "'" ++ v.kindName ++ "' object is not iterable"
  | noPattern => "'pattern'"
  | badPattern v => "Not a pattern: " ++ v.quotedText
  | hugePattern => Pattern.PatternError.tooManyRepeats.message
  | badDirectory v => "Not a directory: " ++ v.quotedText
  | document f => f.message
  | unreadable reason => reason

/-- Is the fault one that is not put up with? -/
def SettingsError.isFatal : SettingsError → Bool
  | hugePattern | document .emptyNumber | document .noMoment => true
  | _ => false

/-- How texts are read as patterns. -/
abbrev PatternReader : Type := String → Except Pattern.PatternError Pattern

namespace Settings

/-- A list of texts; nothing is an empty one. -/
def textList : Option Value → Except SettingsError (List String)
  | none | some .null => .ok []
  | some (.list vs) => .ok (vs.map Value.display)
  | some v => .error (.notList v)

/-- A handler of examples. -/
def handler (compile : PatternReader) (v : Value) : Except SettingsError Handler :=
  match v with
  | .map _ =>
    match v.get? "pattern" with
    | none => .error .noPattern
    | some (.text s) =>
      match compile s with
      | .ok pattern => .ok { pattern, test := (v.get? "test").getD (.text "") }
      | .error .tooManyRepeats => .error .hugePattern
      | .error .malformed => .error (.badPattern (.text s))
    | some w => .error (.badPattern w)
  | _ => .error .handlerNotMap

/-- Handlers of examples.  A value that does not hold stands for none. -/
def handlerList (compile : PatternReader) : Option Value → Except SettingsError (List Handler)
  | none => .ok []
  | some v =>
    if !v.holds then .ok []
    else
      match v with
      | .list vs => vs.mapM (handler compile)
      | .map _ | .text _ => .error .handlerNotMap
      | v => .error (.handlersNotList v)

/-- The directory of templates, seen from the directory of the settings. -/
def directory (root : Path) : Option Value → Except SettingsError (Option String)
  | none => .ok none
  | some v =>
    if !v.holds then .ok none
    else
      match v with
      | .text s => .ok (some (root.join (Path.parse s)).text)
      | v => .error (.badDirectory v)

/-- Further data for the template. -/
def options : Option Value → Except SettingsError (List (Key × Value))
  | none => .ok []
  | some v =>
    if !v.holds then .ok []
    else
      match v with
      | .map es => .ok es
      | _ => .error .optionsNotMap

/-- The settings in the value of a document.  A value that is no map has none. -/
def ofValue (root : Path) (v : Value) (compile : PatternReader := (Pattern.parse ·)) :
    Except SettingsError Settings :=
  match v with
  | .map _ => do
    let extraOptions ← options (v.get? "extra_options")
    let namespaces ← textList (v.get? "namespaces")
    let tags ← textList (v.get? "tags")
    let javascripts ← textList (v.get? "javascripts")
    let templateDir ← directory root (v.get? "template_dir")
    let handlers ← handlerList compile (v.get? "example_handlers")
    return {
      namespaces, tags, javascripts, templateDir, handlers, extraOptions
      template := (v.get? "template").getD (.text defaultTemplate) }
  | _ => .ok {}

end Settings

/-- A settings file: there is none, it cannot be read, or it holds a document. -/
inductive SettingsFile where
  | missing
  | faulty (e : SettingsError)
  | document (v : Value)
  deriving Inhabited

/-- The settings file with a text. -/
def SettingsFile.ofText (s : String) : SettingsFile :=
  match Yaml.parse (String.ofList (Text.unifyLineEnds s.toList)) with
  | .ok v => document v
  | .error f => faulty (.document f)

namespace Settings

/-- The name of a settings file. -/
def fileName : String := ".autodoc"

/-- The settings of a directory, and a notice if its settings file is not used. -/
def load (root : Path) (file : SettingsFile) (compile : PatternReader := (Pattern.parse ·)) :
    Except SettingsError (List Notice × Settings) :=
  let ignored (e : SettingsError) : Except SettingsError (List Notice × Settings) :=
    if e.isFatal then .error e
    else .ok ([.ignoredSettings (root.join (Path.parse fileName)).text e.message], {})
  match file with
  | .missing => .ok ([], {})
  | .faulty e => ignored e
  | .document v =>
    match ofValue root v compile with
    | .ok s => .ok ([], s)
    | .error e => ignored e

end Settings

end DocPages

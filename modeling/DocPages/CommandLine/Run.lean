import DocPages.CommandLine.Arguments
import DocPages.Settings.Read
import DocPages.Site
import DocPages.Text.Decode
import DocPages.Text.Wrap

/-!
# Running the command line

`CommandLine.run` does what arguments ask for.  Files are seen through a `FileSystem`, so that
the program can be run on files of any kind, and what is written comes with the outcome.
-/

namespace DocPages

namespace CommandLine

/-- What a path leads to. -/
inductive FileEntry where
  | directory
  | file (bytes : List UInt8)
  deriving Inhabited

/-- How to see what a path leads to. -/
structure FileSystem (m : Type → Type) where
  entry? : Path → m (Option FileEntry)

/-- The directory the program is run in, and that of the templates that come with it. -/
structure Places where
  current : Path
  templates : Path

/-- What comes of running the program. -/
structure Outcome where
  exitCode : Nat := 0
  output : String := ""
  errors : String := ""
  written : Option (Path × String) := none
  deriving DecidableEq, Inhabited

/-- The version of the program. -/
def version : String := "0.2.2"

/-- The width of lines of messages. -/
def messageWidth : Nat := 80

/-- How the program is used. -/
def usage : String :=
  "Usage: autodoc [--version] [--verbose] COMMAND FILE_PATH\n\n"
    ++ "Commands:\n"
    ++ "  parse     Extract documentation data from a JavaScript file as JSON.\n"
    ++ "  generate  Generate HTML API docs for a JavaScript file.\n"

/-- Why a command fails. -/
inductive Failure where
  | noFile (path : Path)
  | unsupported (path : Path)
  | isDirectory (path : Path)
  | undecodable (e : Text.DecodeError)
  | settings (e : SettingsError)
  | extract (e : ExtractError)
  | page (e : Page.PageError)
  deriving Inhabited

namespace Failure

/-- What is said of a failure. -/
def message : Failure → String
  | noFile path => "File not found: " ++ path.text
  | unsupported path =>
    "Unsupported file type: " ++ if path.suffix.isEmpty then path.name else path.suffix
  | isDirectory path => "[Errno 21] Is a directory: " ++ Text.quoted path.text
  | undecodable e => e.message
  | settings e => e.message
  | extract e => e.message
  | page e => e.message

/-- The exit code of a failure: one for what is wrong with the script, two for anything else. -/
def exitCode : Failure → Nat
  | noFile _ | unsupported _ => 1
  | extract (.record (.noSignature _)) => 2
  | extract _ => 1
  | isDirectory _ | undecodable _ | settings _ | page _ => 2

end Failure

/-- The lines that tell of notices.  Unless everything is wanted, these are only warnings. -/
def noticeText (verbose : Bool) (notices : List Notice) : String :=
  String.join (notices.filterMap fun n =>
    if verbose then some (n.level.label ++ ":" ++ n.topic ++ ":" ++ n.message ++ "\n")
    else if n.level = .warning then some (n.message ++ "\n")
    else none)

/-- The text of bytes, with line feeds at the ends of lines. -/
def textOf (bytes : List UInt8) : Except Text.DecodeError String :=
  (Text.decode bytes).map fun s => String.ofList (Text.unifyLineEnds s.toList)

section

variable {m : Type → Type} [Monad m]

/-- The script that a path leads to. -/
def readScript (fs : FileSystem m) (path : Path) : m (Except Failure String) := do
  match ← fs.entry? path with
  | none => return .error (.noFile path)
  | some entry =>
    if !path.isScript then return .error (.unsupported path)
    match entry with
    | .directory => return .error (.isDirectory path)
    | .file bytes =>
      match textOf bytes with
      | .ok s => return .ok s
      | .error e => return .error (.undecodable e)

/-- The settings file of a directory. -/
def readSettings (fs : FileSystem m) (root : Path) : m SettingsFile := do
  match ← fs.entry? (root.join (Path.parse Settings.fileName)) with
  | none => return .missing
  | some .directory => return .faulty (.unreadable "Is a directory")
  | some (.file bytes) =>
    match textOf bytes with
    | .ok s => return SettingsFile.ofText s
    | .error e => return .faulty (.unreadable e.message)

/-- The settings for a subject: what is asked for on the command line wins. -/
def settingsFor (subject : Subject) (s : Settings) : Settings :=
  { s with
    namespaces := if subject.namespaces.isEmpty then s.namespaces else subject.namespaces
    tags := if subject.tags.isEmpty then s.tags else subject.tags }

/-- The directory of templates, as far as one template is concerned. -/
def templateDir (fs : FileSystem m) (places : Places) (s : Settings) :
    m (Except Failure Page.TemplateDir) := do
  match s.templateDir, s.template with
  | none, _ => return .ok (Page.TemplateDir.bundled places.templates.text)
  | some dir, .text name =>
    let none_ : Page.TemplateDir := ⟨dir, fun _ => none⟩
    match Page.templatePath name with
    | .error _ => return .ok none_
    | .ok inner =>
      match ← fs.entry? ((Path.parse dir).join (Path.parse inner)) with
      | some (.file bytes) =>
        match Text.decode bytes with
        | .ok s => return .ok ⟨dir, fun n => if n = inner then some (.custom s) else none⟩
        | .error e => return .error (.undecodable e)
      | _ => return .ok none_
  | some dir, _ => return .ok ⟨dir, fun _ => none⟩

/-- The page of a script. -/
def pageOf (fs : FileSystem m) (places : Places) (s : Settings) (l : Library) :
    m (Except Failure String) := do
  match ← templateDir fs places s with
  | .error e => return .error e
  | .ok dir =>
    match l.page s dir with
    | .ok page => return .ok page
    | .error e => return .error (.page e)

/-- The outcome of a failure. -/
def failed (verbose : Bool) (notices : List Notice) (f : Failure) : Outcome :=
  { exitCode := f.exitCode
    errors := noticeText verbose notices ++ "Error: " ++ f.message ++ "\n" }

/-- Make the page of a library, and write it to a file or show it.  A directory cannot be written
to, of which only the exit code tells. -/
def generate (fs : FileSystem m) (places : Places) (verbose : Bool) (notices : List Notice)
    (s : Settings) (file : Path) (output : Option Path) (l : Library) : m Outcome := do
  let errors := noticeText verbose notices
  match ← pageOf fs places s l with
  | .error f => return failed verbose notices f
  | .ok page =>
    match output with
    | none => return { output := page ++ "\n", errors }
    | some path =>
      match ← fs.entry? path with
      | some .directory => return { exitCode := 1, errors }
      | _ =>
        return {
          output := Text.wrap messageWidth
            ("Wrote docs for " ++ file.text ++ " to " ++ path.text) ++ "\n"
          errors
          written := some (path, page) }

/-- Do what a command says. -/
def runCommand (fs : FileSystem m) (places : Places) (verbose : Bool) (command : Command) :
    m Outcome := do
  let subject := match command with
    | .parse subject => subject
    | .generate subject _ _ => subject
  match ← readScript fs subject.file with
  | .error f => return failed verbose [] f
  | .ok code =>
    match Settings.load places.current (← readSettings fs places.current) with
    | .error e => return failed verbose [] (.settings e)
    | .ok (warnings, s) =>
      let s := settingsFor subject s
      let s := match command with
        | .generate _ _ (some template) =>
          { s with template := .text template.name, templateDir := some template.parent.text }
        | _ => s
      let (notices, library) := Library.ofSource s Markup.describe code
      let notices := warnings ++ notices
      match library, command with
      | .error e, _ => return failed verbose notices (.extract e)
      | .ok l, .parse _ =>
        return { output := l.report ++ "\n", errors := noticeText verbose notices }
      | .ok l, .generate _ output _ => generate fs places verbose notices s subject.file output l

/-- Do what arguments ask for. -/
def run (fs : FileSystem m) (places : Places) (args : List String) : m Outcome := do
  match Invocation.ofArguments args with
  | .error e => return { exitCode := 2, errors := usage ++ "Error: " ++ e.message ++ "\n" }
  | .ok .help => return { output := usage }
  | .ok .version => return { output := "autodoc version " ++ version ++ "\n" }
  | .ok .idle => return {}
  | .ok (.run verbose command) => runCommand fs places verbose command

end

end CommandLine

end DocPages

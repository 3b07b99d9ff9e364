import DocPages.Path

/-!
# Arguments of the command line

`Invocation.ofArguments` reads what is asked for.  Options may be written long, `--tag x` or
`--tag=x`, or short, `-t x` or `-tx`; two dashes end them.
-/

namespace DocPages

namespace CommandLine

/-- An option: its long and its short name, and whether a value follows it. -/
structure OptionForm where
  long : String
  short : Option Char := none
  takesValue : Bool := false
  deriving DecidableEq, Inhabited

/-- What is wrong with arguments. -/
inductive UsageError where
  | noSuchOption (name : String)
  | noValue (name : String)
  | needlessValue (name : String)
  | noSuchCommand (name : String)
  | missingFile
  | extraArgument (text : String)
  | noArguments
  deriving DecidableEq, Inhabited

/-- What is said of wrong arguments. -/
def UsageError.message : UsageError → String
  | noSuchOption name => "No such option: " ++ name
  | noValue name => "Option '" ++ name ++ "' requires an argument."
  | needlessValue name => "Option '" ++ name ++ "' does not take a value."
  | noSuchCommand name => "No such command '" ++ name ++ "'."
  | missingFile => "Missing argument 'FILE_PATH'."
  | extraArgument text => "Got unexpected extra argument (" ++ text ++ ")"
  | noArguments => "Missing command."

/-- Options with their values, in their order, and the other arguments. -/
structure Arguments where
  options : List (String × String) := []
  others : List String := []
  deriving DecidableEq, Inhabited

namespace Arguments

/-- The arguments with one more option before them. -/
def addOption (name value : String) (a : Arguments) : Arguments :=
  { a with options := (name, value) :: a.options }

/-- The values of an option. -/
def values (a : Arguments) (name : String) : List String :=
  (a.options.filter fun o => o.1 == name).map Prod.snd

/-- The last value of an option. -/
def last? (a : Arguments) (name : String) : Option String :=
  (a.values name).getLast?

/-- Is the option there? -/
def has (a : Arguments) (name : String) : Bool :=
  a.options.any fun o => o.1 == name

/-- Options that short names stand for, with their values, and the arguments that are left. -/
def shortOptions (forms : List OptionForm) :
    List Char → List String → Except UsageError (List (String × String) × List String)
  | [], rest => .ok ([], rest)
  | c :: cs, rest =>
    match forms.find? fun f => f.short == some c with
    | none => .error (.noSuchOption (String.ofList ['-', c]))
    | some form =>
      if form.takesValue then
        match cs, rest with
        | [], [] => .error (.noValue (String.ofList ['-', c]))
        | [], v :: rest => .ok ([(form.long, v)], rest)
        | cs, rest => .ok ([(form.long, String.ofList cs)], rest)
      else
        (shortOptions forms cs rest).map fun (os, rest) => ((form.long, "") :: os, rest)

/-- The option that an argument is, with its value, and the arguments that are left. -/
def option (forms : List OptionForm) (arg : String) (rest : List String) :
    Except UsageError (List (String × String) × List String) :=
  let name := String.ofList (arg.toList.takeWhile (· != '='))
  let given := match arg.toList.dropWhile (· != '=') with
    | _ :: v => some (String.ofList v)
    | [] => none
  match forms.find? fun f => f.long == name with
  | some form =>
    match form.takesValue, given, rest with
    | true, some v, rest => .ok ([(form.long, v)], rest)
    | true, none, v :: rest => .ok ([(form.long, v)], rest)
    | true, none, [] => .error (.noValue form.long)
    | false, none, rest => .ok ([(form.long, "")], rest)
    | false, some _, _ => .error (.needlessValue form.long)
  | none =>
    if arg.startsWith "--" then .error (.noSuchOption name)
    else shortOptions forms (arg.toList.drop 1) rest

/-- Read arguments; the number given is more than that of the arguments. -/
private def readWithin (forms : List OptionForm) (mixed : Bool) :
    Nat → List String → Except UsageError Arguments
  | 0, _ => .ok {}
  | _ + 1, [] => .ok {}
  | fuel + 1, arg :: rest =>
    if arg == "--" then .ok { others := rest }
    else if arg.startsWith "-" && arg != "-" then do
      let (os, rest) ← option forms arg rest
      let a ← readWithin forms mixed fuel rest
      return os.foldr (fun o a => a.addOption o.1 o.2) a
    else if mixed then do
      let a ← readWithin forms mixed fuel rest
      return { a with others := arg :: a.others }
    else .ok { others := arg :: rest }

/-- Read arguments.  Options may stand between other arguments only if they are `mixed`. -/
def read (forms : List OptionForm) (mixed : Bool) (args : List String) :
    Except UsageError Arguments :=
  readWithin forms mixed (args.length + 1) args

end Arguments

/-- What is documented: a script, the namespaces and the tags that are wanted. -/
structure Subject where
  file : Path
  namespaces : List String
  tags : List String
  deriving DecidableEq, Inhabited

/-- What is done with documentation: it is shown as data, or made into a page. -/
inductive Command where
  | parse (subject : Subject)
  | generate (subject : Subject) (output template : Option Path)
  deriving DecidableEq, Inhabited

/-- What is asked for. -/
inductive Invocation where
  | version
  | help
  | idle
  | run (verbose : Bool) (command : Command)
  deriving DecidableEq, Inhabited

namespace Invocation

/-- Ask how the program is used. -/
private def helpForm : OptionForm := { long := "--help" }

/-- Ask for the version. -/
private def versionForm : OptionForm := { long := "--version", short := some 'v' }

/-- Ask for every notice. -/
private def verboseForm : OptionForm := { long := "--verbose" }

/-- Name a namespace that is wanted. -/
private def namespaceForm : OptionForm := ⟨"--namespace", some 'n', true⟩

/-- Name a tag that is wanted. -/
private def tagForm : OptionForm := ⟨"--tag", some 't', true⟩

/-- Name the file that a page is written to. -/
private def outputForm : OptionForm := ⟨"--output", some 'o', true⟩

/-- Name the template that a page is made from. -/
private def templateForm : OptionForm := ⟨"--template", none, true⟩

/-- What is documented, from the arguments of a command. -/
def subjectOf (a : Arguments) : Except UsageError Subject :=
  match a.others with
  | [] => .error .missingFile
  | [file] =>
    .ok
      { file := Path.parse file
        namespaces := a.values namespaceForm.long
        tags := a.values tagForm.long }
  | _ :: extra :: _ => .error (.extraArgument extra)

/-- What a command with its arguments asks for. -/
def ofCommand (verbose : Bool) (name : String) (args : List String) :
    Except UsageError Invocation := do
  let common := [helpForm, namespaceForm, tagForm]
  match name with
  | "parse" =>
    let a ← Arguments.read common true args
    if a.has helpForm.long then return help
    return run verbose (.parse (← subjectOf a))
  | "generate" =>
    let a ← Arguments.read (common ++ [outputForm, templateForm]) true args
    if a.has helpForm.long then return help
    return run verbose (.generate (← subjectOf a) ((a.last? outputForm.long).map Path.parse)
      ((a.last? templateForm.long).map Path.parse))
  | name => .error (.noSuchCommand name)

/-- What arguments ask for.  Of the version and help, what is asked for first is shown. -/
def ofArguments (args : List String) : Except UsageError Invocation := do
  if args.isEmpty then .error .noArguments
  else
    let a ← Arguments.read [helpForm, versionForm, verboseForm] false args
    match a.options.find? fun o => o.1 == helpForm.long || o.1 == versionForm.long with
    | some (name, _) => return if name == helpForm.long then help else version
    | none =>
      match a.others with
      | [] => return idle
      | name :: rest => ofCommand (a.has verboseForm.long) name rest

end Invocation

end CommandLine

end DocPages

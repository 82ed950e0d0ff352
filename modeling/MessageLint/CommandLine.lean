import MessageLint.Project

/-!
# MessageLint — the command line

What users can ask for on the command line, and what comes of it: an exit status, text for both
output streams, and the workspace as the command leaves it.
-/

namespace MessageLint.CommandLine

open Files (Path Workspace)

/-! ## Arguments -/

/-- What a command line asks for. -/
inductive Command where
  /-- Check a project by some rules; none means all of them. -/
  | check (rules : List Rule) (root : Option Path) (verbose : Bool)
  | init
  | serve
deriving DecidableEq, Repr

/-- Why no command is run. -/
inductive Usage where
  | help
  | version
  | unknownArgument
  | unknownCommand
  | badValue
  | repeated
  | needlessValue
deriving DecidableEq, Repr

/-- What the arguments of `check` have said so far. -/
structure Selection where
  rules : List Rule := []
  root : Option Path := none
  verbose : Bool := false
deriving DecidableEq, Repr

/-- An argument by its shape. -/
inductive Shape where
  /-- Two hyphens alone, after which all arguments are values. -/
  | separator
  /-- Two hyphens and a name, with the value after an equals sign. -/
  | long (name : String) (value : Option String)
  /-- One hyphen and letters. -/
  | short (letters : List Char)
  | value (s : String)
deriving DecidableEq, Repr

/-- The shape of an argument. -/
def Shape.of (s : String) : Shape :=
  match s.toList with
  | ['-', '-'] => separator
  | '-' :: '-' :: rest =>
    let name := rest.takeWhile (· != '=')
    match rest.drop name.length with
    | _ :: after => long (String.ofList name) (some (String.ofList after))
    | [] => long (String.ofList name) none
  | '-' :: c :: rest => short (c :: rest)
  | _ => value s

/-- Takes a rule by its name. -/
def Selection.addRule (s : Selection) (name : String) : Except Usage Selection :=
  match Rule.suppressible.find? (·.name == name) with
  | some rule => .ok { s with rules := s.rules ++ [rule] }
  | none => .error .badValue

/-- Takes the project root, which is not empty. -/
def Selection.setRoot (s : Selection) (root : Path) : Except Usage Selection :=
  if s.root.isSome then .error .repeated
  else if root == "" then .error .badValue
  else .ok { s with root := some root }

/-- Asks for details. -/
def Selection.setVerbose (s : Selection) : Except Usage Selection :=
  if s.verbose then .error .repeated else .ok { s with verbose := true }

/-- Follows the letters of a short argument of `check`. -/
def Selection.addLetters (s : Selection) : List Char → Except Usage Selection
  | [] => .ok s
  | c :: rest =>
    if c == 'v' then do (← s.setVerbose).addLetters rest
    else if c == 'h' then .error .help
    else .error .unknownArgument

/-- A long argument that takes no value. -/
def withoutValue {α : Type} (value : Option String) (result : Except Usage α) : Except Usage α :=
  if value.isSome then .error .needlessValue else result

/-- Follows the arguments of `check`, from left to right. -/
def Selection.follow (s : Selection) : List String → Except Usage Selection
  | [] => .ok s
  | argument :: rest =>
    match Shape.of argument with
    | .separator => rest.foldlM Selection.addRule s
    | .value name => do (← s.addRule name).follow rest
    | .short letters => do (← s.addLetters letters).follow rest
    | .long name value =>
      if name == "verbose" then do (← withoutValue value s.setVerbose).follow rest
      else if name == "help" then withoutValue value (.error .help)
      else if name == "source-root" then
        match value, rest with
        | some root, rest => do (← s.setRoot root).follow rest
        | none, next :: rest =>
          match Shape.of next with
          | .value root => do (← s.setRoot root).follow rest
          | _ => .error .badValue
        | none, [] => .error .badValue
      else .error .unknownArgument

/-- Follows the arguments of a command that takes none. -/
def noArguments (command : Command) : List String → Except Usage Command
  | [] => .ok command
  | argument :: rest =>
    match Shape.of argument, rest with
    | .separator, [] => .ok command
    | .long "help" value, _ => withoutValue value (.error .help)
    | .short ('h' :: _), _ => .error .help
    | _, _ => .error .unknownArgument

/-- The names of the commands. -/
def commandNames : List String := ["check", "init", "serve", "help"]

/-- Asks for help on a command, or on none. -/
def helpOn : List String → Usage
  | [] => .help
  | [name] => if commandNames.contains name then .help else .unknownCommand
  | _ => .unknownCommand

/-- The command that arguments ask for, if they ask for one. -/
def parse : List String → Except Usage (Option Command)
  | [] => .ok none
  | argument :: rest =>
    match Shape.of argument with
    | .long name value =>
      if name == "help" then withoutValue value (.error .help)
      else if name == "version" then withoutValue value (.error .version)
      else .error .unknownArgument
    | .short (c :: _) =>
      if c == 'h' then .error .help
      else if c == 'V' then .error .version
      else .error .unknownArgument
    | .short [] => .error .unknownArgument
    | .separator =>
      match rest with
      | [] => .ok none
      | name :: _ =>
        if commandNames.contains name then .error .unknownArgument else .error .unknownCommand
    | .value name =>
      if name == "check" then do
        let s ← ({} : Selection).follow rest
        return some (.check s.rules s.root s.verbose)
      else if name == "init" then do return some (← noArguments .init rest)
      else if name == "serve" then do return some (← noArguments .serve rest)
      else if name == "help" then .error (helpOn rest)
      else .error .unknownCommand

/-- The text that explains the commands. -/
def helpText : String :=
  "A fast CLI tool for checking i18n message-authoring mistakes in Lingui projects\n\n" ++
  "Usage: msglint [COMMAND]\n\n" ++
  "Commands:\n" ++
  "  check  Check message templates and JSX for localization issues\n" ++
  "  init   Initialize a new .msglintrc.json configuration file\n" ++
  "  serve  Start MCP server for AI coding agents\n" ++
  "  help   Print this message or the help of the given subcommand(s)\n\n" ++
  "Options:\n" ++
  "  -h, --help     Print help\n" ++
  "  -V, --version  Print version\n"

/-! ## Commands -/

/-- How a command ends. -/
inductive Status where
  | success
  /-- Errors were found, or there is nothing to do. -/
  | failure
  /-- The command could not be carried out. -/
  | error
deriving DecidableEq, Repr

/-- The exit code of a status. -/
def Status.code : Status → Nat
  | success => 0
  | failure => 1
  | error => 2

/-- A check fails if it finds errors; warnings alone do not make it fail. -/
def Status.ofErrorCount (errors : Nat) : Status := if errors > 0 then failure else success

/-- What a command comes to. -/
structure Run where
  status : Status
  out : List Report.Piece := []
  err : List Report.Piece := []
  /-- The workspace after the command. -/
  workspace : Workspace

/-- Why a command cannot be carried out. -/
inductive RunError where
  | config (reason : Config.LoadError)
  | notWritable
  /-- The service runs outside of this program's commands. -/
  | serve
deriving DecidableEq, Repr

/-- The message about a command that cannot be carried out. -/
def RunError.message : RunError → String
  | config reason => reason.message
  | notWritable => Files.ReadError.isDirectory.message
  | serve => "Serve command should be handled before run()"

/-- What a check finds. -/
structure CheckResult where
  /-- All issues, in order. -/
  issues : List Issue
  sourceFiles : Nat
deriving DecidableEq, Repr

/-- The issues that are errors. -/
def CheckResult.errorCount (r : CheckResult) : Nat := Issue.errorCount r.issues

/-- All other issues are warnings. -/
def CheckResult.warningCount (r : CheckResult) : Nat := r.issues.length - r.errorCount

/-- The issues about files that cannot be checked. -/
def CheckResult.failureCount (r : CheckResult) : Nat :=
  r.issues.countP (·.rule == .parseError)

/-- Checks a project by the selected rules; none means all of them. -/
def checkProject (p : Project) (rules : List Rule) : CheckResult where
  issues := p.issues (if rules.isEmpty then Rule.suppressible else rules)
  sourceFiles := p.files.length

/-- The report on a check. -/
def CheckResult.report (r : CheckResult) : List Report.Piece :=
  if r.issues.isEmpty then Report.success r.sourceFiles else Report.ofIssues r.issues

/-- Checks the project at a root. -/
def runCheck (w : Workspace) (rules : List Rule) (root : Option Path) (verbose : Bool) :
    Except RunError Run :=
  match Project.openAt w (root.getD ".") verbose with
  | .error reason => .error (.config reason)
  | .ok project =>
    let result := checkProject project rules
    .ok {
      status := .ofErrorCount result.errorCount
      out := result.report
      err := project.notices ++ project.failureNotices verbose ++
        Report.parseWarning result.failureCount verbose
      workspace := w }

/-- Writes the default configuration into the working directory, unless there is one. -/
def runInit (w : Workspace) : Except RunError Run :=
  if w.pathExists Config.fileName then
    .ok {
      status := .failure
      err := [Report.styled (.boldColour .red) "error:",
        Report.plain (" " ++ Config.fileName ++ " already exists\n")]
      workspace := w }
  else
    match w.writeText? Config.fileName Config.defaultText with
    | none => .error .notWritable
    | some written =>
      .ok {
        status := .success
        out := [Report.styled (.colour .green) Report.successMark, Report.plain " ",
          Report.styled (.colour .green) ("Created " ++ Config.fileName), Report.plain "\n"]
        workspace := written }

/-- Carries out a command; without one, explains the commands. -/
def run (w : Workspace) : Option Command → Except RunError Run
  | none => .ok { status := .success, out := [Report.plain helpText], workspace := w }
  | some (.check rules root verbose) => runCheck w rules root verbose
  | some .init => runInit w
  | some .serve => .error .serve

end MessageLint.CommandLine

import MessageLint.Scan
import MessageLint.Source

/-!
# MessageLint — checking a project

A project is what a configuration selects from a workspace: a scan root and the source files below
it, each of which has been parsed or has a reason why not. Checking it means checking every parsed
file, in the order of the paths.
-/

namespace MessageLint

open Files (Path Workspace)

/-- Why a source file cannot be checked. -/
inductive FileError where
  | unreadable (reason : Files.ReadError)
  | unparsable (reason : Source.ParseError)
deriving DecidableEq, Repr

/-- The message about a file that cannot be checked. -/
def FileError.message (path : Path) : FileError → String
  | unreadable reason => "Failed to read " ++ path ++ ": " ++ reason.message
  | unparsable reason => "Failed to parse " ++ path ++ ": " ++ reason.message

/-- Reads and parses a file. -/
def parseFile (w : Workspace) (path : Path) : Except FileError ParsedFile :=
  match w.readText path with
  | .error reason => .error (.unreadable reason)
  | .ok text =>
    match Source.parse text with
    | .error reason => .error (.unparsable reason)
    | .ok parsed => .ok parsed

/-- A project. -/
structure Project where
  config : Config
  /-- Does the configuration come from a file? -/
  fromFile : Bool
  /-- The directory that is scanned. -/
  scanRoot : Path
  /-- The source files in order, each with what became of it. -/
  outcomes : List (Path × Except FileError ParsedFile)
  /-- What the user was told while the project was opened. -/
  notices : List Report.Piece

namespace Project

/-- The directory that a configured path names, seen from a project root. Segments that lead nowhere
are dropped from the configured path, but the root is kept as it is. -/
def resolve (root configured : Path) : Path :=
  if Path.isAbsolute configured then configured
  else
    let names := (Path.segments configured).filter fun s => s != "" && s != "."
    if names.isEmpty then root else Path.join root (Path.ofSegments names)

/-- What to scan, as configured. -/
def scanOptions (c : Config) (verbose : Bool) : Scan.Options where
  includes := c.includes
  ignores := c.ignores
  ignoreTestFiles := c.ignoreTestFiles
  verbose := verbose

/-- A hint at paths that could not be entered. -/
def skippedNotice (count : Nat) (verbose : Bool) : List Report.Piece :=
  if count = 0 then []
  else
    Report.warning (toString count ++ " path(s) skipped due to access errors" ++
      if verbose then "" else " (use -v for details)")

/-- The project that a configuration selects. -/
def ofConfig (w : Workspace) (root : Path) (loaded : Config.Loaded) (verbose : Bool) : Project :=
  let scanRoot := resolve root loaded.config.sourceRoot
  let found := scan w scanRoot (scanOptions loaded.config verbose)
  { config := loaded.config
    fromFile := loaded.fromFile
    scanRoot := scanRoot
    outcomes := found.files.map fun path => (path, parseFile w path)
    notices := found.notices verbose ++ skippedNotice found.skipped verbose }

/-- A note on a project without a configuration file. -/
def defaultsNotice (loaded : Config.Loaded) (verbose : Bool) : List Report.Piece :=
  if verbose && !loaded.fromFile then
    [Report.styled .bold "note:",
      Report.plain (" No " ++ Config.fileName ++ " found, using default configuration\n")]
  else []

/-- Opens the project at a root, with the configuration that applies there. -/
def openAt (w : Workspace) (root : Path) (verbose : Bool) : Except Config.LoadError Project := do
  let loaded ← Config.load w root
  let project := ofConfig w root loaded verbose
  return { project with notices := defaultsNotice loaded verbose ++ project.notices }

/-- The paths of the source files. -/
def files (p : Project) : List Path := p.outcomes.map (·.1)

/-- The files that have been parsed. -/
def parsed (p : Project) : List (Path × ParsedFile) :=
  p.outcomes.filterMap fun (path, outcome) =>
    match outcome with
    | .ok file => some (path, file)
    | .error _ => none

/-- The files that cannot be checked, with the message about each. -/
def failures (p : Project) : List (Path × String) :=
  p.outcomes.filterMap fun (path, outcome) =>
    match outcome with
    | .ok _ => none
    | .error e => some (path, e.message path)

/-- What the configuration exempts from the rules. -/
def exemptions (p : Project) : Check.Exemptions :=
  ⟨p.config.ignoreTexts, p.config.ignoreAttributes⟩

/-- The issues that rules find in the parsed files, file by file. -/
def check (p : Project) (rules : List Rule) : List Issue :=
  p.parsed.flatMap fun (path, file) => Check.file path file rules p.exemptions

/-- The issues about files that cannot be checked. -/
def failureIssues (p : Project) : List Issue :=
  p.failures.map fun (path, message) => .unparsed path message

/-- All issues of a project, in order. Files that cannot be checked are reported whatever rules are
selected. -/
def issues (p : Project) (rules : List Rule) : List Issue :=
  Issue.sort (p.check rules ++ p.failureIssues)

/-- Details on the files that cannot be checked, if they are wanted. -/
def failureNotices (p : Project) (verbose : Bool) : List Report.Piece :=
  if verbose then p.failures.flatMap fun (_, message) => Report.warning message else []

end Project

end MessageLint

import MessageLint.CommandLine

/-!
# MessageLint — the program

Reads the files that a command can reach, carries out the command that the arguments ask for, and
shows what comes of it.
-/

namespace MessageLint.Program

open Files (Path Workspace Entry)

/-- Can a command look into a file of this name? -/
def isOfInterest (name : String) : Bool := name == Config.fileName || Scan.isSourceFile name

/-- What a search for the configuration looks for on its way. -/
def landmarks : List String := [Config.fileName, ".git"]

/-- Reads what a directory holds, as far as it is wanted: everything at and below the places in
`wanted`, which are given by the names that lead there, and the landmarks on the way to them. A link
is followed only if it is `named` on the way to such a place. Files that no command looks into are
taken for empty. -/
partial def readEntry (wanted : List (List String)) (named : Bool) (e : IO.FS.DirEntry) :
    IO Entry := do
  let metadata ← if named then e.path.metadata else e.path.symlinkMetadata
  match metadata.type with
  | .dir =>
    let all := wanted.contains []
    let listed ← if all then e.path.readDir else pure #[]
    let names := listed.toList.map (·.fileName) ++ landmarks ++ wanted.filterMap List.head?
    let found ← names.eraseDups.filterM fun (name : String) => (e.path / name).pathExists
    let entries ← found.mapM fun name => do
      let further := wanted.filter (·.head? == some name) |>.map List.tail
      let inherited := if all then [[]] else []
      return (name, ← readEntry (inherited ++ further) (!further.isEmpty) ⟨e.path, name⟩)
    return .directory entries
  | .file =>
    return .file (← if isOfInterest e.fileName then IO.FS.readBinFile e.path else pure .empty)
  | _ => return .other

/-- The files at and below some places, as seen from the working directory. -/
def readWorkspace (workingDirectory : List String) (places : List (List String)) :
    IO Workspace := do
  let outermost ← readEntry (workingDirectory :: places) true ⟨"/", ""⟩
  return ⟨outermost, workingDirectory⟩

/-- A place below which everything lies that an entry to include denotes. -/
def placeOf (w : Workspace) (base : Path) (entry : String) : List String :=
  let full := Path.join base entry
  if Files.Glob.isPattern entry then
    let literal := full.toList.takeWhile fun c => !(c == '*' || c == '?' || c == '[')
    let place := w.target (String.ofList (literal.reverse.dropWhile (· != '/')).reverse)
    place.take (place.length - (Path.segments full).countP (· == ".."))
  else w.target full

/-- The places that a check of the project at a root looks at, as far as the configuration says. -/
def placesFor (w : Workspace) (root : Path) : List (List String) :=
  match Config.load w root with
  | .error _ => []
  | .ok loaded =>
    let scanRoot := Project.resolve root loaded.config.sourceRoot
    w.target scanRoot :: loaded.config.includes.map (placeOf w scanRoot)

/-- Reads what a command can reach. -/
def readFor (command : Option CommandLine.Command) : IO Workspace := do
  let workingDirectory := (← IO.currentDir).components.filter (· != "")
  match command with
  | some (.check _ root _) =>
    let root := root.getD "."
    let place := (Workspace.mk .other workingDirectory).target root
    let w ← readWorkspace workingDirectory [place]
    readWorkspace workingDirectory (place :: placesFor w root)
  | _ => readWorkspace workingDirectory []

/-- Shows why no command is run. -/
def showUsage (usage : CommandLine.Usage) : IO UInt32 := do
  match usage with
  | .help =>
    IO.print CommandLine.helpText
    return 0
  | .version =>
    IO.println "msglint 0.1.0"
    return 0
  | .unknownArgument => IO.eprintln "error: unexpected argument found"
  | .unknownCommand => IO.eprintln "error: unrecognized subcommand"
  | .badValue => IO.eprintln "error: invalid or missing value"
  | .repeated => IO.eprintln "error: an argument cannot be used multiple times"
  | .needlessValue => IO.eprintln "error: unexpected value for an argument"
  return 2

/-- Carries out a command and shows what comes of it. -/
def execute (command : Option CommandLine.Command) : IO UInt32 := do
  let w ← readFor command
  match CommandLine.run w command with
  | .error e =>
    IO.eprintln ("Error: " ++ e.message)
    return 2
  | .ok run =>
    if !w.pathExists Config.fileName then
      if let .ok text := run.workspace.readText Config.fileName then
        IO.FS.writeFile Config.fileName text
    let out ← IO.getStdout
    let err ← IO.getStderr
    out.putStr (Report.render (← out.isTty) run.out)
    err.putStr (Report.render (← err.isTty) run.err)
    return run.status.code.toUInt32

end MessageLint.Program

/-- Follows the arguments of the command line. -/
def main (args : List String) : IO UInt32 :=
  match MessageLint.CommandLine.parse args with
  | .error usage => MessageLint.Program.showUsage usage
  | .ok command => MessageLint.Program.execute command

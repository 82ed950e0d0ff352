import MessageLint.Config
import MessageLint.Files.Expand
import MessageLint.Report

/-!
# MessageLint — finding source files

Which files of a workspace are checked: source files below the scan roots, less what is ignored.
-/

namespace MessageLint

namespace Scan

open Files (Path Workspace Entry)

/-- Endings of source files. -/
def sourceExtensions : List String := ["tsx", "ts", "jsx", "js"]

/-- Is the path that of a source file, by its ending? -/
def isSourceFile (p : Path) : Bool :=
  ((Path.extension? p).map (sourceExtensions.contains ·)).getD false

/-- Patterns of test files. -/
def testFilePatterns : List String :=
  ["**/*.test.tsx", "**/*.test.ts", "**/*.test.jsx", "**/*.test.js", "**/*.spec.tsx",
    "**/*.spec.ts", "**/*.spec.jsx", "**/*.spec.js", "**/__tests__/**"]

/-- What to scan below a base directory. -/
structure Options where
  includes : List String := []
  ignores : List String := []
  ignoreTestFiles : Bool := false
  verbose : Bool := false
deriving DecidableEq, Repr

/-- What is left out: everything below some paths, and what matches some patterns. -/
structure IgnoreSet where
  paths : List Path := []
  patterns : List (List Files.Glob.Token) := []

/-- Is the path left out? -/
def IgnoreSet.ignores (s : IgnoreSet) (p : Path) : Bool :=
  s.paths.any (Path.startsWith p ·) || s.patterns.any (Files.Glob.matchesText · p)

/-- The tokens of the patterns that are valid. -/
def validPatterns (entries : List String) : List (List Files.Glob.Token) :=
  entries.filterMap fun entry => (Files.Glob.parse entry).toOption

/-- What is left out below a base directory. -/
def IgnoreSet.ofOptions (base : Path) (o : Options) : IgnoreSet where
  paths := (o.ignores.filter (!Files.Glob.isPattern ·)).map (Path.join base)
  patterns :=
    validPatterns (o.ignores.filter Files.Glob.isPattern) ++
      if o.ignoreTestFiles then validPatterns testFilePatterns else []

/-- Something the scan remarks on. -/
inductive Remark where
  | badIgnore (entry : String) (error : Files.Glob.PatternError)
  | missingInclude (path : Path)
  | badInclude (entry : String) (error : Files.Glob.PatternError)
  | missingRoot (path : Path)
deriving DecidableEq, Repr

/-- The text of a remark. -/
def Remark.message : Remark → String
  | badIgnore entry e => "Invalid ignore pattern '" ++ entry ++ "': " ++ e.message
  | missingInclude path => "Include path does not exist: " ++ path
  | badInclude entry e => "Invalid glob pattern '" ++ entry ++ "': " ++ e.message
  | missingRoot path =>
    "Cannot access path: IO error for operation on " ++ path ++ ": " ++
      Files.ReadError.notFound.message

/-- Remarks on patterns to ignore that are not valid. -/
def ignoreRemarks (o : Options) : List Remark :=
  o.ignores.filterMap fun entry =>
    if Files.Glob.isPattern entry then
      match Files.Glob.parse entry with
      | .error e => some (.badIgnore entry e)
      | .ok _ => none
    else none

/-- The roots that one entry to include stands for, and a remark if it stands for none. -/
def includeRoots (w : Workspace) (base : Path) (entry : String) : List Path × List Remark :=
  let full := Path.join base entry
  if Files.Glob.isPattern entry then
    match Files.Glob.expand w full with
    | .ok paths => (paths.filter w.isDirectory, [])
    | .error e => ([], [.badInclude entry e])
  else if w.pathExists full then ([full], [])
  else ([], [.missingInclude full])

/-- Where to scan: at the base directory if there is nothing to include. -/
def roots (w : Workspace) (base : Path) (o : Options) : List Path × List Remark :=
  if o.includes.isEmpty then ([base], [])
  else
    let found := o.includes.map (includeRoots w base)
    (found.flatMap (·.1), found.flatMap (·.2))

mutual

/-- The source files at and below an entry, by their paths. Nothing below an ignored directory is
looked at. -/
def sourceFiles (ignored : Path → Bool) (path : Path) : Entry → List Path
  | .file _ => if !ignored path && isSourceFile path then [path] else []
  | .directory es => if ignored path then [] else sourceFilesAmong ignored path es
  | .other => []

/-- The source files among the entries of a directory, and those below them. -/
def sourceFilesAmong (ignored : Path → Bool) (path : Path) : List (String × Entry) → List Path
  | [] => []
  | (name, e) :: rest =>
    sourceFiles ignored (Path.join path name) e ++ sourceFilesAmong ignored path rest

end

/-- Paths in order, each once. -/
def sortPaths (paths : List Path) : List Path :=
  (paths.mergeSort fun a b => compare a b != .gt).eraseReps

/-- What a scan finds. -/
structure Result where
  /-- Paths of source files, in order, each once. -/
  files : List Path := []
  /-- Roots that could not be entered. -/
  skipped : Nat := 0
  remarks : List Remark := []
deriving DecidableEq, Repr

/-- What one root adds. -/
def scanRoot (w : Workspace) (ignored : IgnoreSet) (root : Path) : List Path × List Remark :=
  match w.entry? root with
  | some e => (sourceFiles ignored.ignores root e, [])
  | none => ([], [.missingRoot root])

end Scan

open Files (Path Workspace)

/-- The source files of a workspace below a base directory. -/
def scan (w : Workspace) (base : Path) (o : Scan.Options) : Scan.Result :=
  let ignored := Scan.IgnoreSet.ofOptions base o
  let (roots, rootRemarks) := Scan.roots w base o
  let found := roots.map (Scan.scanRoot w ignored)
  let missing := found.flatMap (·.2)
  { files := Scan.sortPaths (found.flatMap (·.1))
    skipped := missing.length
    remarks := Scan.ignoreRemarks o ++ rootRemarks ++ missing }

/-- What a scan writes for its user: the remarks, if details are wanted. -/
def Scan.Result.notices (r : Scan.Result) (verbose : Bool) : List Report.Piece :=
  if verbose then r.remarks.flatMap fun remark => Report.warning remark.message else []

end MessageLint

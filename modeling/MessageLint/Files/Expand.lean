import MessageLint.Files.Glob
import MessageLint.Files.Workspace

/-!
# MessageLint — the paths that a glob pattern denotes

A pattern over paths is matched component by component, so that `*` stays inside a component. A
component without wildcards is followed without looking at what else the directory holds, unless it
comes after `**`: then it is compared with the names of entries, as any other component.
-/

namespace MessageLint.Files.Glob

/-- A pattern for one path component. -/
inductive ComponentPattern where
  /-- A component without wildcards. -/
  | plain (name : String)
  /-- The component `**`: any number of directories. -/
  | recursive
  | pattern (tokens : List Token)

/-- The text of a pattern that consists of characters only. -/
def plainText? : List Token → Option (List Char)
  | [] => some []
  | .char c :: rest => (plainText? rest).map (c :: ·)
  | _ :: _ => none

/-- The pattern of one component. -/
def ComponentPattern.parse (s : String) : Except PatternError ComponentPattern := do
  let tokens ← Glob.parse s
  match plainText? tokens with
  | some cs => return .plain (String.ofList cs)
  | none => return if tokens.contains .anyComponents then .recursive else .pattern tokens

/-- Does the component match the name of an entry? -/
def ComponentPattern.matchesName : ComponentPattern → String → Bool
  | plain s, name => name == s
  | recursive, _ => true
  | pattern tokens, name => matchesText tokens name

/-- The path of a component below `base`; the current directory is left out, however it is
written. -/
def below (base : Path) (name : String) : Path :=
  if Path.components base == [.here] then name else Path.join base name

/-- May `.` and `..` match? Only a pattern that begins with a dot matches them. -/
def specials (tokens : List Token) : List String :=
  if tokens.head? == some (.char '.') then [".", ".."].filter (matchesText tokens) else []

mutual

/-- The directories below an entry whose path is `base`. -/
def directoriesBelow (base : Path) : Entry → List Path
  | .directory es => directoriesAmong base es
  | _ => []

/-- The directories among the entries of `base`, and those below them. -/
def directoriesAmong (base : Path) : List (String × Entry) → List Path
  | [] => []
  | (name, e) :: rest =>
    (if e.isDirectory then [below base name] else []) ++ directoriesBelow (below base name) e ++
      directoriesAmong base rest

end

/-- The paths of the entries of `base` that a component matches by their names. -/
def matchingEntries (w : Workspace) (c : ComponentPattern) (base : Path) : List Path :=
  match w.entry? base with
  | some (.directory es) => ((es.map (·.1)).filter c.matchesName).map (below base)
  | _ => []

/-- The paths of the directories below `base`, at any depth. -/
def innerDirectories (w : Workspace) (base : Path) : List Path :=
  match w.entry? base with
  | some e => directoriesBelow base e
  | none => []

/-- The paths of the entries below `base`, at any depth, that a component matches by their names. -/
def matchingAtDepth (w : Workspace) (c : ComponentPattern) (base : Path) : List Path :=
  (base :: innerDirectories w base).flatMap (matchingEntries w c)

/-- The existing paths that match the components below `base`. After `**` the next component is
looked for at any depth, and at the end of a pattern `**` stands for all directories. -/
def expandFrom (w : Workspace) : List ComponentPattern → Bool → Path → List Path
  | [], anyDepth, base => if anyDepth then innerDirectories w base else [base]
  | .recursive :: rest, _, base => expandFrom w rest true base
  | .plain name :: rest, anyDepth, base =>
    let next := below base name
    if anyDepth then (matchingAtDepth w (.plain name) base).flatMap (expandFrom w rest false)
    else if name == "." || name == ".." then
      if w.isDirectory base then expandFrom w rest false next else []
    else if w.pathExists next then expandFrom w rest false next else []
  | .pattern tokens :: rest, anyDepth, base =>
    if anyDepth then (matchingAtDepth w (.pattern tokens) base).flatMap (expandFrom w rest false)
    else
      (matchingEntries w (.pattern tokens) base).flatMap (expandFrom w rest false) ++
        if w.isDirectory base then
          (specials tokens).flatMap fun name => expandFrom w rest false (Path.join base name)
        else []

/-- The segments of a pattern; a slash at its end opens no segment. -/
def patternSegments (pattern : Path) : List String :=
  match (Path.segments pattern).reverse with
  | "" :: rest => rest.reverse
  | _ => Path.segments pattern

/-- The segments of a pattern, without the empty one before the slash that an absolute pattern
begins with. -/
def steps (pattern : Path) : List String :=
  if Path.isAbsolute pattern then (patternSegments pattern).tail else patternSegments pattern

/-- Where the expansion of a pattern starts. -/
def outset (pattern : Path) : Path := if Path.isAbsolute pattern then "/" else "."

/-- The existing paths that match a pattern. A leading `./` is left out of them. -/
def expand (w : Workspace) (pattern : Path) : Except PatternError (List Path) := do
  let _ ← Glob.parse pattern
  let components ← (steps pattern).mapM ComponentPattern.parse
  return expandFrom w components false (outset pattern)

end MessageLint.Files.Glob

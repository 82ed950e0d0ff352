import MessageLint.Files.Path

/-!
# MessageLint — files and directories

A tree of directories and files with a working directory in it. Absolute paths lead from the
outermost directory, all others from the working directory; `..` leads to the enclosing directory,
and stays at the outermost one.

A tree says what can be seen of files, and no more: names are texts, everything may be read, and
links are not followed. A link that a walk meets is neither a file nor a directory; one that a path
is meant to lead through stands in the tree as what it leads to.
-/

namespace MessageLint.Files

/-- What a directory can hold. -/
inductive Entry where
  /-- A regular file. -/
  | file (content : ByteArray)
  | directory (entries : List (String × Entry))
  /-- Something else, such as a link or a socket: it exists, but it can be neither entered nor
  read. -/
  | other

namespace Entry

/-- Is it a directory? -/
def isDirectory : Entry → Bool
  | directory _ => true
  | _ => false

/-- The entries of a directory; nothing else has any. -/
def entries : Entry → List (String × Entry)
  | directory es => es
  | _ => []

/-- The entry with this name in a directory. -/
def child? (e : Entry) (name : String) : Option Entry := e.entries.lookup name

/-- The entry that the names lead to. -/
def at? (e : Entry) : List String → Option Entry
  | [] => some e
  | name :: rest => (e.child? name).bind (·.at? rest)

/-- Entries with one replaced, or added at the end. -/
def put (name : String) (e : Entry) : List (String × Entry) → List (String × Entry)
  | [] => [(name, e)]
  | (n, old) :: rest => if n == name then (n, e) :: rest else (n, old) :: put name e rest

/-- Puts an entry where the names lead, with the directories on the way; no answer if something else
is in the way. -/
def insert? (e : Entry) (names : List String) (new : Entry) : Option Entry :=
  match names, e with
  | [], _ => some new
  | name :: rest, .directory es =>
    (((es.lookup name).getD (.directory [])).insert? rest new).map fun changed =>
      .directory (put name changed es)
  | _ :: _, _ => none

/-- Takes away the entry that the names lead to. -/
def erase? (e : Entry) : List String → Option Entry
  | [] => none
  | [name] =>
    if (e.child? name).isSome then some (.directory (e.entries.filter (·.1 != name))) else none
  | name :: rest => do
    let changed ← (← e.child? name).erase? rest
    return .directory (put name changed e.entries)

end Entry

/-- Why a file cannot be read. -/
inductive ReadError where
  | notFound
  | isDirectory
  | notReadable
  | notText
deriving DecidableEq, Repr

/-- The message about the failure. -/
def ReadError.message : ReadError → String
  | notFound => "No such file or directory (os error 2)"
  | isDirectory => "Is a directory (os error 21)"
  | notReadable => "No such device or address (os error 6)"
  | notText => "stream did not contain valid UTF-8"

/-- Directories and files, and the names that lead from the outermost directory to the working
directory. -/
structure Workspace where
  outermost : Entry
  workingDirectory : List String := []

namespace Workspace

/-- Follows one segment from a location, given by the names that lead to it in reverse. Only from a
directory does any segment lead further. -/
def followSegment (w : Workspace) (location : List String) (segment : String) :
    Option (List String) :=
  match w.outermost.at? location.reverse with
  | some (.directory es) =>
    if segment == "" || segment == "." then some location
    else if segment == ".." then some location.tail
    else if (es.lookup segment).isSome then some (segment :: location)
    else none
  | _ => none

/-- Follows segments one after the other. -/
def followSegments (w : Workspace) : List String → List String → Option (List String)
  | location, [] => some location
  | location, s :: rest => (w.followSegment location s).bind (w.followSegments · rest)

/-- Where a path starts from: an absolute one from the outermost directory, any other from the
working directory. -/
def start (w : Workspace) (p : Path) : List String :=
  if Path.isAbsolute p then [] else w.workingDirectory

/-- The names that lead to what a path denotes, if that exists. The empty path denotes nothing. -/
def locate? (w : Workspace) (p : Path) : Option (List String) :=
  if p == "" then none
  else (w.followSegments (w.start p).reverse (Path.segments p)).map List.reverse

/-- What a path denotes. -/
def entry? (w : Workspace) (p : Path) : Option Entry := (w.locate? p).bind w.outermost.at?

/-- Does the path denote something? -/
def pathExists (w : Workspace) (p : Path) : Bool := (w.entry? p).isSome

/-- Does the path denote a directory? -/
def isDirectory (w : Workspace) (p : Path) : Bool := ((w.entry? p).map (·.isDirectory)).getD false

/-- The text of a file. -/
def readText (w : Workspace) (p : Path) : Except ReadError String :=
  match w.entry? p with
  | none => .error .notFound
  | some (.directory _) => .error .isDirectory
  | some .other => .error .notReadable
  | some (.file content) =>
    match String.fromUTF8? content with
    | some text => .ok text
    | none => .error .notText

/-- Where a path leads by its text alone, whether or not anything is there. -/
def target (w : Workspace) (p : Path) : List String :=
  ((Path.segments p).foldl (fun location segment =>
    if segment == "" || segment == "." then location
    else if segment == ".." then location.tail
    else segment :: location) (w.start p).reverse).reverse

/-- Puts an entry at a path, with the directories on the way. -/
def put? (w : Workspace) (p : Path) (e : Entry) : Option Workspace :=
  (w.outermost.insert? (w.target p) e).map fun outermost => { w with outermost }

/-- Writes a text to a file; no answer if a directory or anything else is in the way. -/
def writeText? (w : Workspace) (p : Path) (text : String) : Option Workspace :=
  match w.entry? p with
  | none | some (.file _) => w.put? p (.file text.toUTF8)
  | some _ => none

/-- Takes away what a path denotes. -/
def remove? (w : Workspace) (p : Path) : Option Workspace := do
  let outermost ← w.outermost.erase? (← w.locate? p)
  return { w with outermost }

end Workspace

end MessageLint.Files

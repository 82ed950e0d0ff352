/-!
# MessageLint — paths

Paths as the text that users write, with `/` between segments. Empty segments and `.` segments do
not change where a path leads, but the text of a path is kept as it was built.
-/

namespace MessageLint.Files

/-- A path as it was written. -/
abbrev Path := String

namespace Path

/-- Splits characters at every `/`. -/
def segmentChars : List Char → List (List Char)
  | [] => [[]]
  | c :: rest =>
    if c == '/' then [] :: segmentChars rest
    else
      match segmentChars rest with
      | [] => [[c]]
      | segment :: segments => (c :: segment) :: segments

/-- The segments between slashes, empty ones included. -/
def segments (p : Path) : List String := (segmentChars p.toList).map String.ofList

/-- Does the path begin at the root? -/
def isAbsolute (p : Path) : Bool :=
  match p.toList with
  | '/' :: _ => true
  | _ => false

/-- A step of a path. -/
inductive Component where
  | root
  /-- A leading `.`; elsewhere such a segment is dropped. -/
  | here
  | up
  | name (s : String)
deriving DecidableEq, Repr

/-- The component that a segment stands for, unless it is empty or `.`. -/
def Component.ofSegment? (s : String) : Option Component :=
  if s == "" || s == "." then none else if s == ".." then some .up else some (.name s)

/-- The components of a path. -/
def components (p : Path) : List Component :=
  let steps := (segments p).filterMap Component.ofSegment?
  if isAbsolute p then .root :: steps
  else if (segments p).head? == some "." then .here :: steps
  else steps

/-- Does the path begin with all components of another? -/
def startsWith (p lead : Path) : Bool := (components lead).isPrefixOf (components p)

/-- The path below `base`; an absolute path stands for itself. -/
def join (base p : Path) : Path :=
  if isAbsolute p then p
  else if base.toList.isEmpty || base.toList.getLast? == some '/' then base ++ p
  else base ++ "/" ++ p

/-- Segments with slashes between them. -/
def ofSegments : List String → Path
  | [] => ""
  | [s] => s
  | s :: rest => s ++ "/" ++ ofSegments rest

/-- Drops final segments that do not change where a path leads, but never the first segment. The
segments are given in reverse. -/
def dropIdle : List String → List String
  | [] => []
  | [first] => [first]
  | s :: rest => if s == "" || s == "." then dropIdle rest else s :: rest

/-- The path without its last component, by its text alone; the empty path has none. -/
def parent? (p : Path) : Option Path :=
  if isAbsolute p then
    match dropIdle (segments p).reverse with
    | _ :: outer =>
      match dropIdle outer with
      | [] => none
      | [_] => some "/"
      | outer => some (ofSegments outer.reverse)
    | [] => none
  else
    match dropIdle (segments p).reverse with
    | [] => none
    | last :: outer =>
      if outer.isEmpty && last == "" then none else some (ofSegments (dropIdle outer).reverse)

/-- The last component, if it is a name. -/
def fileName? (p : Path) : Option String :=
  match (components p).getLast? with
  | some (.name s) => some s
  | _ => none

/-- What follows the last dot of the file name; a dot at its start does not count. -/
def extension? (p : Path) : Option String :=
  match fileName? p with
  | none => none
  | some name =>
    let ending := name.toList.reverse.takeWhile (· != '.')
    if ending.length + 1 < name.toList.length then some (String.ofList ending.reverse) else none

end Path

end MessageLint.Files

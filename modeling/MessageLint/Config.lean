import MessageLint.Files.Glob
import MessageLint.Files.Workspace
import MessageLint.Json.Reader

/-!
# MessageLint — configuration

What users can configure, how a configuration is written and read as JSON, and where it is found.
-/

namespace MessageLint

/-- A configuration. -/
structure Config where
  /-- Directories or patterns below the source root that are checked; none means all. -/
  includes : List String := []
  /-- Paths or patterns that are left out. -/
  ignores : List String := ["**/node_modules/**", "**/dist/**", "**/build/**"]
  sourceRoot : String := "./"
  ignoreTestFiles : Bool := true
  /-- Inline texts that are never reported. -/
  ignoreTexts : List String := []
  /-- Attributes that are never reported. -/
  ignoreAttributes : List String :=
    ["className", "class", "style", "id", "key", "href", "src", "to", "type", "name", "role",
      "rel", "target", "htmlFor", "data-testid"]
deriving DecidableEq, Repr

namespace Config

/-- The name of the file that holds a configuration. -/
def fileName : String := ".msglintrc.json"

/-! ## Writing -/

/-- A list of strings as JSON. -/
def strings (ss : List String) : Json := .array (ss.map .string)

/-- The members of a configuration as JSON. -/
def toJson (c : Config) : Json := .object [
  ("includes", strings c.includes),
  ("ignores", strings c.ignores),
  ("sourceRoot", .string c.sourceRoot),
  ("ignoreTestFiles", .bool c.ignoreTestFiles),
  ("ignoreTexts", strings c.ignoreTexts),
  ("ignoreAttributes", strings c.ignoreAttributes)]

/-- A configuration as indented JSON text. -/
def render (c : Config) : String := c.toJson.pretty 0

/-- The text of the default configuration. -/
def defaultText : String := render {}

/-! ## Reading -/

/-- A configuration of which some fields have been read. -/
structure Draft where
  includes : Option (List String) := none
  ignores : Option (List String) := none
  sourceRoot : Option String := none
  ignoreTestFiles : Option Bool := none
  ignoreTexts : Option (List String) := none
  ignoreAttributes : Option (List String) := none
deriving DecidableEq, Repr

/-- The configuration with the fields that have been read, and the defaults for the others. -/
def Draft.finish (d : Draft) : Config :=
  let default : Config := {}
  { includes := d.includes.getD default.includes
    ignores := d.ignores.getD default.ignores
    sourceRoot := d.sourceRoot.getD default.sourceRoot
    ignoreTestFiles := d.ignoreTestFiles.getD default.ignoreTestFiles
    ignoreTexts := d.ignoreTexts.getD default.ignoreTexts
    ignoreAttributes := d.ignoreAttributes.getD default.ignoreAttributes }

/-- The fields of a configuration, in their order. -/
inductive Field where
  | includes
  | ignores
  | sourceRoot
  | ignoreTestFiles
  | ignoreTexts
  | ignoreAttributes
deriving DecidableEq, Repr

namespace Field

/-- All fields, in order. -/
def all : List Field :=
  [includes, ignores, sourceRoot, ignoreTestFiles, ignoreTexts, ignoreAttributes]

/-- The key of a field. -/
def key : Field → String
  | includes => "includes"
  | ignores => "ignores"
  | sourceRoot => "sourceRoot"
  | ignoreTestFiles => "ignoreTestFiles"
  | ignoreTexts => "ignoreTexts"
  | ignoreAttributes => "ignoreAttributes"

/-- The field with this key. -/
def ofKey? (s : String) : Option Field := all.find? (·.key == s)

/-- Has the field been read? -/
def isSet (f : Field) (d : Draft) : Bool :=
  match f with
  | includes => d.includes.isSome
  | ignores => d.ignores.isSome
  | sourceRoot => d.sourceRoot.isSome
  | ignoreTestFiles => d.ignoreTestFiles.isSome
  | ignoreTexts => d.ignoreTexts.isSome
  | ignoreAttributes => d.ignoreAttributes.isSome

/-- Reads the value of a field, by readers for the three types of value. -/
def fill {m : Type → Type} [Monad m] (string : m String) (bool : m Bool)
    (strings : m (List String)) (f : Field) (d : Draft) : m Draft :=
  match f with
  | includes => do return { d with includes := some (← strings) }
  | ignores => do return { d with ignores := some (← strings) }
  | sourceRoot => do return { d with sourceRoot := some (← string) }
  | ignoreTestFiles => do return { d with ignoreTestFiles := some (← bool) }
  | ignoreTexts => do return { d with ignoreTexts := some (← strings) }
  | ignoreAttributes => do return { d with ignoreAttributes := some (← strings) }

/-- Reads the value of a field from text. -/
def read (f : Field) (d : Draft) : Json.Reader Draft :=
  fill (m := StateT Json.Cursor (Except Json.Failure)) Json.Reader.string Json.Reader.bool
    (Json.Reader.list Json.Reader.string) f d

end Field

open Json (Cursor Reader Cause)

/-- Reads the members of a configuration after the opening brace. Each takes a character, so the
length of the text bounds their number. -/
def readMembers : Nat → Bool → Draft → Reader Draft
  | 0, _, _ => fun k => k.fail .expectedValue
  | fuel + 1, first, d => fun k => do
    let (key, k) ← Reader.key? first k
    match key with
    | none => return (d, ← Reader.objectEnd k)
    | some key =>
      match Field.ofKey? key with
      | none =>
        let k ← Reader.skipValue (← Reader.colon k)
        readMembers fuel false d k
      | some field =>
        if field.isSet d then Reader.failField k (.duplicateField key)
        else
          let (d, k) ← field.read d (← Reader.colon k)
          readMembers fuel false d k

/-- Reads the fields of a configuration that is given as a list, in order. -/
def readItems : List Field → Bool → Draft → Reader Draft
  | [], _, d => fun k => do return (d, ← Reader.listEnd k)
  | field :: fields, first, d => fun k => do
    let (more, k) ← Reader.hasItem first k
    if more then
      let (d, k) ← field.read d k
      readItems fields false d k
    else return (d, ← Reader.listEnd k)

/-- Reads a configuration: an object with any of the fields, or a list of the first fields. -/
def reader : Reader Config := fun k => do
  let k := k.skipBlanks
  match k.rest with
  | '\x7b' :: rest =>
    let (d, k) ← readMembers (rest.length + 1) true {} k.next
    return (d.finish, k)
  | '[' :: _ =>
    let (d, k) ← readItems Field.all true {} k.next
    return (d.finish, k)
  | _ => Reader.wrongType "struct Config" k

/-- Reads the text of a configuration. -/
def parse (s : String) : Except Json.Failure Config := Reader.all reader s

/-! ## From a value -/

/-- A string value. -/
def stringOf : Json → Except Cause String
  | .string s => .ok s
  | j => .error (.wrongType j.describe "a string")

/-- A boolean value. -/
def boolOf : Json → Except Cause Bool
  | .bool b => .ok b
  | j => .error (.wrongType j.describe "a boolean")

/-- A list of strings. -/
def stringsOf : Json → Except Cause (List String)
  | .array items => items.mapM stringOf
  | j => .error (.wrongType j.describe "a sequence")

/-- Takes the value of a field. -/
def Field.take (f : Field) (j : Json) (d : Draft) : Except Cause Draft :=
  f.fill (stringOf j) (boolOf j) (stringsOf j) d

/-- Takes the members of an object. -/
def takeMembers (d : Draft) : List (String × Json) → Except Cause Draft
  | [] => .ok d
  | (key, j) :: rest =>
    match Field.ofKey? key with
    | none => takeMembers d rest
    | some field => do takeMembers (← field.take j d) rest

/-- Takes the items of a list of `total` items as the fields in order. -/
def takeItems (total : Nat) (d : Draft) : List Field → List Json → Except Cause Draft
  | _, [] => .ok d
  | [], _ :: _ => .error (.wrongLength total "fewer elements in array")
  | field :: fields, j :: rest => do takeItems total (← field.take j d) fields rest

/-- The configuration that a JSON value holds. -/
def ofJson : Json → Except Cause Config
  | .object members => do return (← takeMembers {} members).finish
  | .array items => do return (← takeItems items.length {} Field.all items).finish
  | j => .error (.wrongType j.describe "struct Config")

/-! ## Validity -/

/-- A pattern that is refused, and the field that holds it. -/
structure BadPattern where
  field : String
  pattern : String
  error : Files.Glob.PatternError
deriving DecidableEq, Repr

/-- What is said of the pattern itself. -/
def BadPattern.outline (b : BadPattern) : String :=
  "Invalid glob pattern in '" ++ b.field ++ "': \"" ++ b.pattern ++ "\""

/-- The whole message. -/
def BadPattern.message (b : BadPattern) : String := b.outline ++ ": " ++ b.error.message

/-- Checks the patterns of one field, in order. -/
def validatePatterns (field : String) : List String → Except BadPattern Unit
  | [] => .ok ()
  | entry :: rest =>
    if Files.Glob.isPattern entry then
      match Files.Glob.parse entry with
      | .error e => .error ⟨field, entry, e⟩
      | .ok _ => validatePatterns field rest
    else validatePatterns field rest

/-- Checks the patterns of a configuration. -/
def validate (c : Config) : Except BadPattern Unit := do
  validatePatterns "ignores" c.ignores
  validatePatterns "includes" c.includes

/-! ## Finding -/

open Files (Path Workspace ReadError)

/-- Looks for a configuration file in a directory and then, by the text of the path, in the ones
around it, up to one with a `.git` entry. Each step shortens the path, so its length bounds the
steps. -/
def findFrom (w : Workspace) : Nat → Path → Option Path
  | 0, _ => none
  | fuel + 1, directory =>
    let file := Path.join directory fileName
    if w.pathExists file then some file
    else if w.pathExists (Path.join directory ".git") then none
    else (Path.parent? directory).bind (findFrom w fuel)

/-- The configuration file that applies to a directory. -/
def find? (w : Workspace) (directory : Path) : Option Path :=
  findFrom w (directory.length + 2) directory

/-- Why a configuration file cannot be used. -/
inductive LoadError where
  | unreadable (path : Path) (reason : ReadError)
  | unparsable (path : Path) (reason : Json.Failure)
  | invalid (reason : BadPattern)
deriving DecidableEq, Repr

/-- What happened, without the reason. -/
def LoadError.outline : LoadError → String
  | unreadable path _ => "Failed to read config file: " ++ Text.quoted path
  | unparsable path _ => "Failed to parse config file: " ++ Text.quoted path
  | invalid reason => reason.outline

/-- What happened, with the reason. -/
def LoadError.message (e : LoadError) : String :=
  e.outline ++ ": " ++ match e with
    | unreadable _ reason => reason.message
    | unparsable _ reason => reason.message
    | invalid reason => reason.error.message

/-- A configuration, and whether it comes from a file. -/
structure Loaded where
  config : Config := {}
  fromFile : Bool := false
deriving DecidableEq, Repr

/-- The configuration that applies to a directory. -/
def load (w : Workspace) (directory : Path) : Except LoadError Loaded :=
  match find? w directory with
  | none => .ok {}
  | some path =>
    match w.readText path with
    | .error reason => .error (.unreadable path reason)
    | .ok text =>
      match parse text with
      | .error reason => .error (.unparsable path reason)
      | .ok config =>
        match config.validate with
        | .error reason => .error (.invalid reason)
        | .ok () => .ok ⟨config, true⟩

end Config

end MessageLint

import MessageLint.Project

/-!
# MessageLint — the service for coding agents

Two tools that answer in JSON: one shows the configuration of a project, the other its issues, a
page at a time.
-/

namespace MessageLint.Service

open Files (Path Workspace)
open Json (Cause)

/-- What agents are told about the service. -/
def instructions : String :=
  "msglint MCP helps AI agents fix i18n message-authoring mistakes in Lingui projects.\n\n" ++
  "Available tools:\n" ++
  "1. get_config - Get project configuration\n" ++
  "2. scan_messages - List issues (paginated)\n\n" ++
  "Rules:\n" ++
  "- message-expression: inside t`...`, msg`...` or defineMessage`...`, replace " ++
  "$\x7bobject.property\x7d and $\x7bfn()\x7d with a plain $\x7bvariable\x7d\n" ++
  "- unlocalized-attribute: translate user-visible attributes such as placeholder or alt\n" ++
  "- unlocalized-text: wrap JSX text in <Trans>"

/-! ## Parameters -/

/-- A number of 32 bits, or nothing. -/
def countOf? : Json → Except Cause (Option Nat)
  | .null => .ok none
  | .int n =>
    if 0 ≤ n && n < UInt32.size then .ok (some n.toNat)
    else .error (.wrongValue (Json.int n).describe "u32")
  | j => .error (.wrongType j.describe "u32")

/-- What a scan is asked for. -/
structure ScanParams where
  root : Path
  limit : Option Nat := none
  offset : Option Nat := none
deriving DecidableEq, Repr

/-- The key of the project root. -/
def rootKey : String := "projectRootPath"

/-- The value of an optional member. -/
def optionalMember (members : List (String × Json)) (key : String) : Except Cause (Option Nat) :=
  match members.lookup key with
  | some j => countOf? j
  | none => .ok none

/-- The project root among the members. -/
def rootMember (members : List (String × Json)) : Except Cause Path :=
  match members.lookup rootKey with
  | some j => Config.stringOf j
  | none => .error (.missingField rootKey)

/-- The parameters of a scan: an object, or a list of all of them in order. -/
def ScanParams.ofJson : Json → Except Cause ScanParams
  | .object members => do
    let limit ← optionalMember members "limit"
    let offset ← optionalMember members "offset"
    return ⟨← rootMember members, limit, offset⟩
  | .array items =>
    let wrongLength := .error (.wrongLength items.length "struct ScanMessagesParams with 3 elements")
    match items with
    | [] => wrongLength
    | root :: rest => do
      let root ← Config.stringOf root
      match rest with
      | [] => wrongLength
      | limit :: rest =>
        let limit ← countOf? limit
        match rest with
        | [] => wrongLength
        | [offset] => return ⟨root, limit, ← countOf? offset⟩
        | offset :: _ =>
          let _ ← countOf? offset
          .error (.wrongLength items.length "fewer elements in array")
  | j => .error (.wrongType j.describe "struct ScanMessagesParams")

/-- The project root of which the configuration is asked for. -/
def configParams : Json → Except Cause Path
  | .object members => rootMember members
  | .array [] => .error (.wrongLength 0 "struct GetConfigParams with 1 element")
  | .array [root] => Config.stringOf root
  | .array (root :: rest) => do
    let _ ← Config.stringOf root
    .error (.wrongLength (rest.length + 1) "fewer elements in array")
  | j => .error (.wrongType j.describe "struct GetConfigParams")

/-! ## Answers -/

/-- A page of a list. -/
structure Page (α : Type) where
  items : List α
  offset : Nat
  limit : Nat
  /-- Are there items after the page? -/
  hasMore : Bool
deriving DecidableEq, Repr

/-- The page of at most `limit` items after the first `offset`. -/
def Page.of {α : Type} (all : List α) (offset limit : Nat) : Page α :=
  let items := (all.drop offset).take limit
  ⟨items, offset, limit, offset + items.length < all.length⟩

/-- Items on a page unless something else is asked for. -/
def defaultLimit : Nat := 20

/-- The most items on a page. -/
def maxLimit : Nat := 100

/-- A member that is left out if it has no value. -/
def optional (key : String) (value : Option Json) : List (String × Json) :=
  (value.map fun j => (key, j)).toList

/-- An issue as JSON. -/
def issueJson (i : Issue) : Json := .object <|
  [("rule", .string i.rule.name), ("severity", .string i.severity.name),
    ("filePath", .string i.path)] ++
  optional "line" (i.place?.map fun p => .int p.line) ++
  optional "col" (i.place?.map fun p => .int p.col) ++
  [("message", .string i.message)] ++
  optional "sourceLine" (i.place?.map fun p => .string p.sourceLine) ++
  optional "details" (i.details?.map .string) ++
  optional "hint" (i.hint?.map .string)

/-- The values of a configuration that clients are shown. -/
structure ConfigValues where
  includes : List String
  ignores : List String
  sourceRoot : String
  ignoreTestFiles : Bool
  ignoreTexts : List String
  ignoreAttributes : List String
deriving DecidableEq, Repr

/-- Clients are shown all values of a configuration. -/
def ConfigValues.ofConfig (c : Config) : ConfigValues where
  includes := c.includes
  ignores := c.ignores
  sourceRoot := c.sourceRoot
  ignoreTestFiles := c.ignoreTestFiles
  ignoreTexts := c.ignoreTexts
  ignoreAttributes := c.ignoreAttributes

/-- The values as JSON. -/
def ConfigValues.toJson (v : ConfigValues) : Json := .object [
  ("includes", Config.strings v.includes),
  ("ignores", Config.strings v.ignores),
  ("sourceRoot", .string v.sourceRoot),
  ("ignoreTestFiles", .bool v.ignoreTestFiles),
  ("ignoreTexts", Config.strings v.ignoreTexts),
  ("ignoreAttributes", Config.strings v.ignoreAttributes)]

/-- What clients are told about the configuration of a project. -/
structure ConfigResult where
  fromFile : Bool
  values : ConfigValues
deriving DecidableEq, Repr

/-- What there is to tell about a configuration that has been loaded. -/
def ConfigResult.of (loaded : Config.Loaded) : ConfigResult :=
  ⟨loaded.fromFile, .ofConfig loaded.config⟩

/-- What clients are told, as JSON. -/
def ConfigResult.toJson (r : ConfigResult) : Json :=
  .object [("fromFile", .bool r.fromFile), ("config", r.values.toJson)]

/-- What a scan finds: a page of issues, and how many there are in all. -/
structure ScanResult where
  page : Page Issue
  total : Nat
  /-- Files with issues. -/
  files : Nat
  sourceFiles : Nat
deriving DecidableEq, Repr

/-- The result of a scan as JSON. -/
def ScanResult.toJson (r : ScanResult) : Json := .object [
  ("totalCount", .int r.total),
  ("totalFileCount", .int r.files),
  ("sourceFilesChecked", .int r.sourceFiles),
  ("items", .array (r.page.items.map issueJson)),
  ("pagination", .object [
    ("offset", .int r.page.offset), ("limit", .int r.page.limit),
    ("hasMore", .bool r.page.hasMore)])]

/-- A page of the issues of a project. -/
def scanProject (p : Project) (limit offset : Option Nat) : ScanResult :=
  let issues := p.issues Rule.suppressible
  { page := Page.of issues (offset.getD 0) (min (limit.getD defaultLimit) maxLimit)
    total := issues.length
    files := (issues.map (·.path)).eraseDups.length
    sourceFiles := p.files.length }

/-- An answer in JSON, and what was written for the user meanwhile. -/
structure Answer where
  json : Json
  err : List Report.Piece := []

/-- Why a tool gives no answer. -/
inductive ToolError where
  | noConfig (reason : Config.LoadError)
  | noProject (reason : Config.LoadError)
deriving DecidableEq, Repr

/-- The message about a tool that gives no answer. -/
def ToolError.message : ToolError → String
  | noConfig reason => "Failed to load config: " ++ reason.outline
  | noProject reason => "Failed to initialize: " ++ reason.outline

/-- The number that tells clients of an internal error. -/
def ToolError.code : Int := -32603

/-- The configuration of a project. -/
def getConfig (w : Workspace) (root : Path) : Except ToolError Answer :=
  match Config.load w root with
  | .error reason => .error (.noConfig reason)
  | .ok loaded => .ok { json := (ConfigResult.of loaded).toJson }

/-- The issues of a project. -/
def scanMessages (w : Workspace) (params : ScanParams) : Except ToolError Answer :=
  match Project.openAt w params.root false with
  | .error reason => .error (.noProject reason)
  | .ok project =>
    .ok {
      json := (scanProject project params.limit params.offset).toJson
      err := project.notices }

end MessageLint.Service

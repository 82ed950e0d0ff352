import MessageLint.Text.Quoted

/-!
# MessageLint — JSON values

JSON values, how they are written, and how messages speak of them. An object keeps its members in
the order in which they were written.
-/

namespace MessageLint

/-- A JSON value. A number is an integer, or else a decimal in positional digits. -/
inductive Json where
  | null
  | bool (b : Bool)
  | int (n : Int)
  | decimal (digits : String)
  | string (s : String)
  | array (items : List Json)
  | object (members : List (String × Json))

namespace Json

/-- What a message calls a value that stands where something else is expected. -/
def describe : Json → String
  | null => "null"
  | bool b => "boolean `" ++ (if b then "true" else "false") ++ "`"
  | int n => "integer `" ++ toString n ++ "`"
  | decimal digits => "floating point `" ++ digits ++ "`"
  | string s => "string " ++ Text.quoted s
  | array _ => "sequence"
  | object _ => "map"

/-- The member of an object with this key. -/
def get? (j : Json) (key : String) : Option Json :=
  match j with
  | object members => members.lookup key
  | _ => none

/-- Four hexadecimal digits. -/
def hex4 (n : Nat) : List Char :=
  let digits := Text.hexDigits n
  List.replicate (4 - digits.length) '0' ++ digits

/-- One character inside a JSON string. -/
def escapeChar (c : Char) : List Char :=
  if c == '"' then ['\\', '"']
  else if c == '\\' then ['\\', '\\']
  else if c == '\n' then ['\\', 'n']
  else if c == '\r' then ['\\', 'r']
  else if c == '\t' then ['\\', 't']
  else if c.toNat == 8 then ['\\', 'b']
  else if c.toNat == 12 then ['\\', 'f']
  else if c.toNat < 0x20 then ['\\', 'u'] ++ hex4 c.toNat
  else [c]

/-- A string as JSON text. -/
def renderString (s : String) : String :=
  String.ofList ('"' :: s.toList.flatMap escapeChar ++ ['"'])

/-- Texts with a separator between them. -/
def joinWith (separator : String) : List String → String
  | [] => ""
  | [s] => s
  | s :: rest => s ++ separator ++ joinWith separator rest

mutual

/-- A value as JSON text on one line, without blanks. -/
def render : Json → String
  | null => "null"
  | bool b => if b then "true" else "false"
  | int n => toString n
  | decimal digits => digits
  | string s => renderString s
  | array items => "[" ++ joinWith "," (renderItems items) ++ "]"
  | object members => "\x7b" ++ joinWith "," (renderMembers members) ++ "\x7d"

/-- The texts of the items of an array. -/
def renderItems : List Json → List String
  | [] => []
  | item :: rest => item.render :: renderItems rest

/-- The texts of the members of an object. -/
def renderMembers : List (String × Json) → List String
  | [] => []
  | (key, value) :: rest => (renderString key ++ ":" ++ value.render) :: renderMembers rest

end

/-- A line break and the indentation of the given depth. -/
def newline (depth : Nat) : String := "\n" ++ String.ofList (List.replicate (2 * depth) ' ')

mutual

/-- A value as indented JSON text; `depth` is the number of enclosing values. -/
def pretty (depth : Nat) : Json → String
  | array (item :: items) =>
    "[" ++ newline (depth + 1) ++
      joinWith ("," ++ newline (depth + 1)) (prettyItems (depth + 1) (item :: items)) ++
      newline depth ++ "]"
  | object (member :: members) =>
    "\x7b" ++ newline (depth + 1) ++
      joinWith ("," ++ newline (depth + 1)) (prettyMembers (depth + 1) (member :: members)) ++
      newline depth ++ "\x7d"
  | array [] => "[]"
  | object [] => "\x7b\x7d"
  | null => "null"
  | bool b => if b then "true" else "false"
  | int n => toString n
  | decimal digits => digits
  | string s => renderString s

/-- The indented texts of the items of an array. -/
def prettyItems (depth : Nat) : List Json → List String
  | [] => []
  | item :: rest => item.pretty depth :: prettyItems depth rest

/-- The indented texts of the members of an object. -/
def prettyMembers (depth : Nat) : List (String × Json) → List String
  | [] => []
  | (key, value) :: rest =>
    (renderString key ++ ": " ++ value.pretty depth) :: prettyMembers depth rest

end

end Json

end MessageLint

import MessageLint.Json.Basic
import MessageLint.Json.Decimal

/-!
# MessageLint — reading JSON text

Readers that take JSON text apart from left to right. A reader knows what it expects, so a value of
the wrong type is refused where it stands, before the text after it is looked at.

Failures carry the line and the number of bytes of it that had been read. A failure at a character
that was only looked at counts one byte of it.
-/

namespace MessageLint.Json

/-- Why a text is refused. -/
inductive Cause where
  | endOfValue
  | endOfObject
  | endOfList
  | endOfString
  | expectedColon
  | expectedListEnd
  | expectedObjectEnd
  | expectedWord
  | expectedValue
  | invalidEscape
  | invalidNumber
  | outOfRange
  | controlCharacter
  | keyNotString
  | loneSurrogate
  | unfinishedSurrogate
  | trailingComma
  | trailingCharacters
  /-- A value of the wrong type. -/
  | wrongType (found expected : String)
  /-- A number of the right type that is out of range. -/
  | wrongValue (found expected : String)
  | duplicateField (name : String)
  | missingField (name : String)
  | wrongLength (found : Nat) (expected : String)
deriving DecidableEq, Repr

/-- The message about a cause. -/
def Cause.message : Cause → String
  | endOfValue => "EOF while parsing a value"
  | endOfObject => "EOF while parsing an object"
  | endOfList => "EOF while parsing a list"
  | endOfString => "EOF while parsing a string"
  | expectedColon => "expected `:`"
  | expectedListEnd => "expected `,` or `]`"
  | expectedObjectEnd => "expected `,` or `\x7d`"
  | expectedWord => "expected ident"
  | expectedValue => "expected value"
  | invalidEscape => "invalid escape"
  | invalidNumber => "invalid number"
  | outOfRange => "number out of range"
  | controlCharacter => "control character (\\u0000-\\u001F) found while parsing a string"
  | keyNotString => "key must be a string"
  | loneSurrogate => "lone leading surrogate in hex escape"
  | unfinishedSurrogate => "unexpected end of hex escape"
  | trailingComma => "trailing comma"
  | trailingCharacters => "trailing characters"
  | wrongType found expected => "invalid type: " ++ found ++ ", expected " ++ expected
  | wrongValue found expected => "invalid value: " ++ found ++ ", expected " ++ expected
  | duplicateField name => "duplicate field `" ++ name ++ "`"
  | missingField name => "missing field `" ++ name ++ "`"
  | wrongLength found expected =>
    "invalid length " ++ toString found ++ ", expected " ++ expected

/-- A place in a text, and what is left to read there. -/
structure Cursor where
  rest : List Char
  line : Nat := 1
  /-- Bytes read on the line. -/
  col : Nat := 0
deriving DecidableEq, Repr

/-- A refusal of a text, and where. -/
structure Failure where
  cause : Cause
  line : Nat
  col : Nat
deriving DecidableEq, Repr

/-- The message about a refusal. -/
def Failure.message (f : Failure) : String :=
  f.cause.message ++ " at line " ++ toString f.line ++ " column " ++ toString f.col

/-- A reader takes what it reads off the text at the cursor, or refuses the text. -/
abbrev Reader (α : Type) : Type := Cursor → Except Failure (α × Cursor)

namespace Cursor

/-- The start of a text. -/
def ofString (s : String) : Cursor := ⟨s.toList, 1, 0⟩

/-- The cursor after the character `c`, where `rest` is left. -/
def past (k : Cursor) (c : Char) (rest : List Char) : Cursor :=
  if c == '\n' then ⟨rest, k.line + 1, 0⟩ else ⟨rest, k.line, k.col + c.utf8Size⟩

/-- The cursor one character on. -/
def next (k : Cursor) : Cursor :=
  match k.rest with
  | [] => k
  | c :: rest => k.past c rest

/-- A refusal right after what has been read. -/
def fail {α : Type} (k : Cursor) (cause : Cause) : Except Failure α :=
  .error ⟨cause, k.line, k.col⟩

/-- A refusal at the next character, one byte of which counts as read. -/
def failAhead {α : Type} (k : Cursor) (cause : Cause) : Except Failure α :=
  match k.rest with
  | [] => k.fail cause
  | '\n' :: _ => .error ⟨cause, k.line + 1, 0⟩
  | _ :: _ => .error ⟨cause, k.line, k.col + 1⟩

/-- The blanks of JSON. -/
def isBlank (c : Char) : Bool := c == ' ' || c == '\n' || c == '\t' || c == '\r'

/-- Skips blanks, from the given place on. -/
def skipBlanksFrom (line col : Nat) : List Char → Cursor
  | [] => ⟨[], line, col⟩
  | c :: rest =>
    if c == '\n' then skipBlanksFrom (line + 1) 0 rest
    else if isBlank c then skipBlanksFrom line (col + 1) rest
    else ⟨c :: rest, line, col⟩

/-- The cursor after the blanks that stand at it. -/
def skipBlanks (k : Cursor) : Cursor := skipBlanksFrom k.line k.col k.rest

/-- The cursor `bytes` further on, inside a character if need be. -/
def skipBytes (k : Cursor) : Nat → List Char → Cursor
  | 0, rest => { k with rest }
  | _ + 1, [] => { k with rest := [] }
  | bytes + 1, c :: rest =>
    if bytes + 1 < c.utf8Size then { k with rest, col := k.col + bytes + 1 }
    else (k.past c rest).skipBytes (bytes + 1 - c.utf8Size) rest

/-- The bytes of the characters. -/
def byteCount (cs : List Char) : Nat := (String.ofList cs).utf8ByteSize

end Cursor

namespace Reader

open Cursor

/-! ## Strings -/

/-- The value of a hexadecimal digit. -/
def hexValue? (c : Char) : Option Nat :=
  if c.isDigit then some (c.toNat - 48)
  else if 'a' ≤ c && c ≤ 'f' then some (c.toNat - 87)
  else if 'A' ≤ c && c ≤ 'F' then some (c.toNat - 55)
  else none

/-- The value of four hexadecimal digits. -/
def hexValue4? (a b c d : Char) : Option Nat := do
  return (((← hexValue? a) * 16 + (← hexValue? b)) * 16 + (← hexValue? c)) * 16 + (← hexValue? d)

/-- The refusal of an escape `\u` whose digits should stand at the cursor. -/
def failHex {α : Type} (k : Cursor) : Except Failure α :=
  if byteCount k.rest < 4 then (k.skipBytes (byteCount k.rest) k.rest).fail .endOfString
  else (k.skipBytes 4 k.rest).fail .invalidEscape

/-- The character that a one-letter escape stands for. -/
def simpleEscape? (c : Char) : Option Char :=
  if c == '"' || c == '\\' || c == '/' then some c
  else if c == 'b' then some (Char.ofNat 8)
  else if c == 'f' then some (Char.ofNat 12)
  else if c == 'n' then some '\n'
  else if c == 'r' then some '\r'
  else if c == 't' then some '\t'
  else none

/-- Is the number the first half of a surrogate pair? -/
def isHighSurrogate (n : Nat) : Bool := 0xD800 ≤ n && n ≤ 0xDBFF

/-- Is the number the second half of a surrogate pair? -/
def isLowSurrogate (n : Nat) : Bool := 0xDC00 ≤ n && n ≤ 0xDFFF

/-- The character that a surrogate pair stands for. -/
def surrogateChar (high low : Nat) : Char :=
  Char.ofNat ((high - 0xD800) * 0x400 + (low - 0xDC00) + 0x10000)

/-- The refusal of a first half that no second half follows. -/
def failSurrogate {α : Type} (k : Cursor) : Except Failure α :=
  match k.rest with
  | [] => k.fail .endOfString
  | '\\' :: _ =>
    match k.next.rest with
    | [] => k.next.fail .endOfString
    | 'u' :: _ => failHex k.next.next
    | _ :: _ => k.next.failAhead .unfinishedSurrogate
  | _ :: _ => k.failAhead .unfinishedSurrogate

/-- The rest of a string after its opening quote, from the given place on. -/
def stringTail (line col : Nat) : List Char → Except Failure (List Char × Cursor)
  | [] => .error ⟨.endOfString, line, col⟩
  | '"' :: rest => .ok ([], ⟨rest, line, col + 1⟩)
  | '\\' :: 'u' :: a :: b :: c :: d :: rest =>
    match hexValue4? a b c d with
    | none => failHex ⟨a :: b :: c :: d :: rest, line, col + 2⟩
    | some n =>
      if isLowSurrogate n then .error ⟨.loneSurrogate, line, col + 6⟩
      else if isHighSurrogate n then
        match rest with
        | '\\' :: 'u' :: e :: f :: g :: h :: rest =>
          match hexValue4? e f g h with
          | none => failHex ⟨e :: f :: g :: h :: rest, line, col + 8⟩
          | some m =>
            if isLowSurrogate m then
              match stringTail line (col + 12) rest with
              | .ok (cs, k) => .ok (surrogateChar n m :: cs, k)
              | .error e => .error e
            else .error ⟨.loneSurrogate, line, col + 12⟩
        | rest => failSurrogate ⟨rest, line, col + 6⟩
      else
        match stringTail line (col + 6) rest with
        | .ok (cs, k) => .ok (Char.ofNat n :: cs, k)
        | .error e => .error e
  | '\\' :: c :: rest =>
    if c == 'u' then failHex ⟨rest, line, col + 2⟩
    else
      match simpleEscape? c with
      | none =>
        if c == '\n' then .error ⟨.invalidEscape, line + 1, 0⟩
        else .error ⟨.invalidEscape, line, col + 2⟩
      | some e =>
        match stringTail line (col + 2) rest with
        | .ok (cs, k) => .ok (e :: cs, k)
        | .error e => .error e
  | c :: rest =>
    if c == '\\' then .error ⟨.endOfString, line, col + 1⟩
    else if c.toNat < 0x20 then
      if c == '\n' then .error ⟨.controlCharacter, line + 1, 0⟩
      else .error ⟨.controlCharacter, line, col + 1⟩
    else
      match stringTail line (col + c.utf8Size) rest with
      | .ok (cs, k) => .ok (c :: cs, k)
      | .error e => .error e

/-- The string whose opening quote stands at the cursor. -/
def quotedString : Reader String := fun k =>
  match stringTail k.next.line k.next.col k.next.rest with
  | .ok (cs, k) => .ok (String.ofList cs, k)
  | .error e => .error e

/-- Skips the rest of a string whose value nobody needs. -/
def skipString (line col : Nat) : List Char → Except Failure Cursor
  | [] => .error ⟨.endOfString, line, col⟩
  | '"' :: rest => .ok ⟨rest, line, col + 1⟩
  | '\\' :: 'u' :: a :: b :: c :: d :: rest =>
    match hexValue4? a b c d with
    | none => failHex ⟨a :: b :: c :: d :: rest, line, col + 2⟩
    | some _ => skipString line (col + 6) rest
  | '\\' :: c :: rest =>
    if c == 'u' then failHex ⟨rest, line, col + 2⟩
    else if (simpleEscape? c).isSome then skipString line (col + 2) rest
    else if c == '\n' then .error ⟨.invalidEscape, line + 1, 0⟩
    else .error ⟨.invalidEscape, line, col + 2⟩
  | c :: rest =>
    if c == '\\' then .error ⟨.endOfString, line, col + 1⟩
    else if c.toNat < 0x20 then .error ⟨.controlCharacter, line, col⟩
    else skipString line (col + c.utf8Size) rest

/-! ## Numbers and words -/

/-- The digits at the cursor. -/
def digits (k : Cursor) : List Char × Cursor :=
  let ds := k.rest.takeWhile Char.isDigit
  (ds, ⟨k.rest.drop ds.length, k.line, k.col + ds.length⟩)

/-- The value of decimal digits. -/
def digitsValue (ds : List Char) : Nat := ds.foldl (fun n d => n * 10 + (d.toNat - 48)) 0

/-- Digits as they are collected: the value of those that fit into 64 bits, the power of ten that
stands for the others, and whether some did not fit. -/
structure Significand where
  value : Nat := 0
  power : Int := 0
  full : Bool := false
deriving DecidableEq, Repr

namespace Significand

/-- Collects a digit before the point. One that does not fit only raises the power of ten. -/
def wholeDigit (s : Significand) (d : Char) : Significand :=
  let value := s.value * 10 + (d.toNat - 48)
  if s.full || value ≥ UInt64.size then { s with power := s.power + 1, full := true }
  else { s with value }

/-- Collects a digit after the point. One that does not fit is dropped. -/
def placeDigit (s : Significand) (d : Char) : Significand :=
  let value := s.value * 10 + (d.toNat - 48)
  if s.full || value ≥ UInt64.size then { s with full := true }
  else { s with value, power := s.power - 1 }

/-- Collects the digits before and after the point. -/
def ofDigits (whole places : List Char) : Significand :=
  places.foldl placeDigit (whole.foldl wholeDigit {})

end Significand

/-- A number with a fraction or an exponent. -/
def decimal (negative : Bool) (s : Significand) (exponent : Int) : Reader Json := fun k =>
  match Double.ofDecimal? s.value (s.power + exponent) with
  | some x => .ok (.decimal ((if negative then "-" else "") ++ x.render), k)
  | none => k.fail .outOfRange

/-- The exponent at the cursor, if one stands there. -/
def exponentPart : Reader Int := fun k =>
  match k.rest with
  | c :: _ =>
    if c == 'e' || c == 'E' then
      let k := k.next
      let (negative, k) := match k.rest with
        | '-' :: _ => (true, k.next)
        | '+' :: _ => (false, k.next)
        | _ => (false, k)
      match digits k with
      | ([], k) => if k.rest.isEmpty then k.fail .endOfValue else k.next.fail .invalidNumber
      | (ds, k) => .ok (if negative then -(digitsValue ds) else digitsValue ds, k)
    else .ok (0, k)
  | [] => .ok (0, k)

/-- Does a fraction or an exponent follow? -/
def hasFraction (k : Cursor) : Bool :=
  match k.rest with
  | c :: _ => c == '.' || c == 'e' || c == 'E'
  | [] => false

/-- What follows the integer part `whole` of a number that is no integer. -/
def fraction (negative : Bool) (whole : List Char) : Reader Json := fun k => do
  let (places, k) ← match k.rest with
    | '.' :: _ =>
      match digits k.next with
      | ([], k) => k.failAhead (if k.rest.isEmpty then .endOfValue else .invalidNumber)
      | (ds, k) => .ok (ds, k)
    | _ => .ok ([], k)
  let (exponent, k) ← exponentPart k
  decimal negative (.ofDigits whole places) exponent k

/-- Numbers of 64 bits are integers; all others are decimals. -/
def wholeNumber (negative : Bool) (ds : List Char) : Reader Json := fun k =>
  let n := digitsValue ds
  if negative && 0 < n && 2 * n ≤ UInt64.size then .ok (.int (-n), k)
  else if !negative && n < UInt64.size then .ok (.int n, k)
  else decimal negative (.ofDigits ds []) 0 k

/-- The number at the cursor. -/
def number : Reader Json := fun k => do
  let (negative, k) := match k.rest with
    | '-' :: _ => (true, k.next)
    | _ => (false, k)
  match digits k with
  | ([], k) => if k.rest.isEmpty then k.fail .endOfValue else k.next.fail .invalidNumber
  | ('0' :: _ :: _, _) => k.next.failAhead .invalidNumber
  | (ds, k) =>
    if hasFraction k then fraction negative ds k else wholeNumber negative ds k

/-- Skips the places of a number, if a point stands at the cursor. -/
def skipPlaces (k : Cursor) : Except Failure Cursor :=
  match k.rest with
  | '.' :: _ =>
    match digits k.next with
    | ([], k) => k.failAhead .invalidNumber
    | (_, k) => .ok k
  | _ => .ok k

/-- Skips the exponent of a number, if one stands at the cursor. -/
def skipExponent (k : Cursor) : Except Failure Cursor :=
  match exponentPart k with
  | .ok (_, k) => .ok k
  | .error e => .error { e with cause := .invalidNumber }

/-- Skips a number whose value nobody needs. It may be too great to be read. -/
def skipNumber (k : Cursor) : Except Failure Cursor :=
  let k := match k.rest with
    | '-' :: _ => k.next
    | _ => k
  match digits k with
  | ([], k) => if k.rest.isEmpty then k.fail .invalidNumber else k.next.fail .invalidNumber
  | ('0' :: _ :: _, _) => k.next.failAhead .invalidNumber
  | (_, k) => do skipExponent (← skipPlaces k)

/-- Takes the characters of a word off the text. -/
def word : List Char → Cursor → Except Failure Cursor
  | [], k => .ok k
  | c :: cs, k =>
    match k.rest with
    | [] => k.fail .endOfValue
    | d :: _ => if c == d then word cs k.next else k.next.fail .expectedWord

/-! ## Values -/

/-- A value of the wrong type, at its first character. A list or an object is refused before its
bracket, any other value after it has been read. -/
def wrongType {α : Type} (expected : String) : Reader α := fun k =>
  match k.rest with
  | [] => k.failAhead .endOfValue
  | c :: _ =>
    let refuse (found : Json) (k : Cursor) : Except Failure (α × Cursor) :=
      k.fail (.wrongType found.describe expected)
    if c == 'n' then do refuse .null (← word "null".toList k)
    else if c == 't' then do refuse (.bool true) (← word "true".toList k)
    else if c == 'f' then do refuse (.bool false) (← word "false".toList k)
    else if c == '-' || c.isDigit then do
      let (n, k) ← number k
      refuse n k
    else if c == '"' then do
      let (s, k) ← quotedString k
      refuse (.string s) k
    else if c == '[' then refuse (.array []) k
    else if c == '\x7b' then refuse (.object []) k
    else k.failAhead .expectedValue

/-- A string. -/
def string : Reader String := fun k =>
  let k := k.skipBlanks
  match k.rest with
  | '"' :: _ => quotedString k
  | _ => wrongType "a string" k

/-- A boolean. -/
def bool : Reader Bool := fun k => do
  let k := k.skipBlanks
  match k.rest with
  | 't' :: _ => return (true, ← word "true".toList k)
  | 'f' :: _ => return (false, ← word "false".toList k)
  | _ => wrongType "a boolean" k

/-- Does an item follow in a list? Takes the comma before it; `first` if none has been read. -/
def hasItem (first : Bool) : Reader Bool := fun k =>
  let k := k.skipBlanks
  match k.rest with
  | [] => k.failAhead .endOfList
  | c :: _ =>
    if c == ']' then .ok (false, k)
    else if first then .ok (true, k)
    else if c == ',' then
      let k := k.next.skipBlanks
      match k.rest with
      | [] => k.failAhead .endOfValue
      | ']' :: _ => k.failAhead .trailingComma
      | _ :: _ => .ok (true, k)
    else k.failAhead .expectedListEnd

/-- The end of a list whose items have been read. -/
def listEnd (k : Cursor) : Except Failure Cursor :=
  let k := k.skipBlanks
  match k.rest with
  | [] => k.failAhead .endOfList
  | ']' :: _ => .ok k.next
  | ',' :: _ =>
    let k := k.next.skipBlanks
    match k.rest with
    | ']' :: _ => k.failAhead .trailingComma
    | _ => k.failAhead .trailingCharacters
  | _ :: _ => k.failAhead .trailingCharacters

/-- The items of a list after its bracket; every item takes a character, so the length of the text
bounds their number. -/
def items {α : Type} (item : Reader α) : Nat → Bool → Reader (List α)
  | 0, _ => fun k => k.fail .expectedValue
  | fuel + 1, first => fun k => do
    let (more, k) ← hasItem first k
    if more then
      let (x, k) ← item k
      let (xs, k) ← items item fuel false k
      return (x :: xs, k)
    else return ([], k)

/-- A list. -/
def list {α : Type} (item : Reader α) : Reader (List α) := fun k => do
  let k := k.skipBlanks
  match k.rest with
  | '[' :: rest =>
    let (xs, k) ← items item (rest.length + 1) true k.next
    return (xs, ← listEnd k)
  | _ => wrongType "a sequence" k

/-- The key of the next member of an object, if one follows; takes the comma before it. -/
def key? (first : Bool) : Reader (Option String) := fun k => do
  let k := k.skipBlanks
  match k.rest with
  | [] => k.failAhead .endOfObject
  | c :: _ =>
    if c == '\x7d' then .ok (none, k)
    else if first then
      if c == '"' then
        let (key, k) ← quotedString k
        return (some key, k)
      else k.failAhead .keyNotString
    else if c == ',' then
      let k := k.next.skipBlanks
      match k.rest with
      | [] => k.failAhead .endOfValue
      | '"' :: _ =>
        let (key, k) ← quotedString k
        return (some key, k)
      | '\x7d' :: _ => k.failAhead .trailingComma
      | _ :: _ => k.failAhead .keyNotString
    else k.failAhead .expectedObjectEnd

/-- The colon after a key. -/
def colon (k : Cursor) : Except Failure Cursor :=
  let k := k.skipBlanks
  match k.rest with
  | [] => k.failAhead .endOfObject
  | ':' :: _ => .ok k.next
  | _ :: _ => k.failAhead .expectedColon

/-- The end of an object whose members have been read. -/
def objectEnd (k : Cursor) : Except Failure Cursor :=
  let k := k.skipBlanks
  match k.rest with
  | [] => k.failAhead .endOfObject
  | '\x7d' :: _ => .ok k.next
  | ',' :: _ => k.failAhead .trailingComma
  | _ :: _ => k.failAhead .trailingCharacters

/-- A refusal of an object's key, placed after the blanks that follow it, and after the brace that
ends the object if it stands there. -/
def failField {α : Type} (k : Cursor) (cause : Cause) : Except Failure α :=
  let k := k.skipBlanks
  match k.rest with
  | '\x7d' :: _ => k.next.fail cause
  | _ => k.fail cause

/-- The brackets that are open while a value is skipped. -/
inductive Bracket where
  | list
  | object
deriving DecidableEq, Repr

/-- What skipping has to do next. -/
inductive Skip where
  /-- A value must follow. -/
  | value
  /-- An item or member, or the end of the innermost bracket; a comma only if `comma`. -/
  | item (comma : Bool)

/-- The key and colon of a member whose value nobody needs. -/
def skipKey (k : Cursor) : Except Failure Cursor := do
  let k := k.skipBlanks
  match k.rest with
  | [] => k.failAhead .endOfObject
  | '"' :: _ =>
    let k ← skipString k.next.line k.next.col k.next.rest
    colon k
  | _ :: _ => k.failAhead .keyNotString

/-- Skips a scalar or an opening bracket. -/
def skipOne (k : Cursor) : Except Failure (Option Bracket × Cursor) :=
  match k.rest with
  | [] => k.failAhead .endOfValue
  | c :: _ =>
    if c == 'n' then do return (none, ← word "null".toList k)
    else if c == 't' then do return (none, ← word "true".toList k)
    else if c == 'f' then do return (none, ← word "false".toList k)
    else if c == '-' || c.isDigit then do return (none, ← skipNumber k)
    else if c == '"' then do return (none, ← skipString k.next.line k.next.col k.next.rest)
    else if c == '[' then .ok (some .list, k.next)
    else if c == '\x7b' then .ok (some .object, k.next)
    else k.failAhead .expectedValue

/-- Skips a value of any type; `opened` holds the open brackets, innermost first. Each step takes a
character or begins a value, so twice the length of the text bounds the steps. -/
def skipLoop : Nat → Skip → List Bracket → Cursor → Except Failure Cursor
  | 0, _, _, k => k.fail .expectedValue
  | fuel + 1, .value, opened, k => do
    let (bracket, k) ← skipOne k.skipBlanks
    match bracket, opened with
    | some b, opened => skipLoop fuel (.item false) (b :: opened) k
    | none, [] => return k
    | none, opened => skipLoop fuel (.item true) opened k
  | _ + 1, .item _, [], k => .ok k
  | fuel + 1, .item comma, b :: opened, k =>
    let k := k.skipBlanks
    match k.rest with
    | [] => k.failAhead (if b = .list then .endOfList else .endOfObject)
    | c :: _ =>
      if (c == ']' && b = .list) || (c == '\x7d' && b = .object) then
        match opened with
        | [] => .ok k.next
        | opened => skipLoop fuel (.item true) opened k.next
      else if c == ',' && comma then do
        let k ← if b = .object then skipKey k.next else .ok k.next
        skipLoop fuel .value (b :: opened) k
      else if comma then
        k.failAhead (if b = .list then .expectedListEnd else .expectedObjectEnd)
      else do
        let k ← if b = .object then skipKey k else .ok k
        skipLoop fuel .value (b :: opened) k

/-- Skips a value of any type. -/
def skipValue (k : Cursor) : Except Failure Cursor :=
  skipLoop (2 * k.rest.length + 2) .value [] k

/-- Nothing but blanks may follow. -/
def endOfText (k : Cursor) : Except Failure Unit :=
  let k := k.skipBlanks
  if k.rest.isEmpty then .ok () else k.failAhead .trailingCharacters

/-- The members of an object after its brace, each with its value. -/
def members (value : Reader Json) : Nat → Bool → Reader (List (String × Json))
  | 0, _ => fun k => k.fail .expectedValue
  | fuel + 1, first => fun k => do
    let (key, k) ← key? first k
    match key with
    | none => return ([], k)
    | some key =>
      let (x, k) ← value (← colon k)
      let (xs, k) ← members value fuel false k
      return ((key, x) :: xs, k)

/-- A value of any type, with at most `depth` brackets around any part of it. -/
def value : Nat → Reader Json
  | 0 => fun k => k.fail .expectedValue
  | depth + 1 => fun k => do
    let k := k.skipBlanks
    match k.rest with
    | [] => k.failAhead .endOfValue
    | c :: rest =>
      if c == 'n' then return (.null, ← word "null".toList k)
      else if c == 't' then return (.bool true, ← word "true".toList k)
      else if c == 'f' then return (.bool false, ← word "false".toList k)
      else if c == '-' || c.isDigit then number k
      else if c == '"' then
        let (s, k) ← quotedString k
        return (.string s, k)
      else if c == '[' then
        let (xs, k) ← items (value depth) (rest.length + 1) true k.next
        return (.array xs, ← listEnd k)
      else if c == '\x7b' then
        let (xs, k) ← members (value depth) (rest.length + 1) true k.next
        return (.object xs, ← objectEnd k)
      else k.failAhead .expectedValue

/-- Reads a whole text. -/
def all {α : Type} (reader : Reader α) (s : String) : Except Failure α := do
  let (x, k) ← reader (Cursor.ofString s)
  endOfText k
  return x

end Reader

/-- The greatest depth of nested values that is read. -/
def depthLimit : Nat := 128

/-- The value that a JSON text holds. -/
def parse (s : String) : Except Failure Json := Reader.all (Reader.value depthLimit) s

end MessageLint.Json

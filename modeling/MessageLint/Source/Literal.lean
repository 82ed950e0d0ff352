import MessageLint.Source.Entity
import MessageLint.Source.Error
import MessageLint.Text.Identifier

/-!
# MessageLint — literals in source text

Strings, templates, numbers and regular expressions, taken off the front of a text. Escapes can
stand for halves of surrogate pairs; a value with a half that has no other half is no text.
-/

namespace MessageLint.Source

/-- Characters left, and the byte offset of the first of them. -/
structure Remaining where
  chars : List Char
  offset : Nat
deriving DecidableEq, Repr

/-- Is `c` one of the four line terminators? -/
def isLineTerminator (c : Char) : Bool :=
  c == '\n' || c == '\r' || c.toNat == 0x2028 || c.toNat == 0x2029

namespace Literal

/-- The text of code points, in which surrogate pairs become one character. No text if a half is
alone. -/
def textOfCodes? : List Nat → Option (List Char)
  | [] => some []
  | high :: rest =>
    if 0xD800 ≤ high && high < 0xDC00 then
      match rest with
      | low :: rest =>
        if 0xDC00 ≤ low && low < 0xE000 then
          (textOfCodes? rest).map
            (Char.ofNat ((high - 0xD800) * 0x400 + (low - 0xDC00) + 0x10000) :: ·)
        else none
      | [] => none
    else if 0xDC00 ≤ high && high < 0xE000 then none
    else (textOfCodes? rest).map (Char.ofNat high :: ·)

/-! ## Escapes -/

/-- What an escape stands for, or why it stands for nothing; and what follows it. -/
structure Escape where
  value : Except ParseError (List Nat)
  rest : Remaining

/-- The hexadecimal digits of a braced escape, and what follows the closing brace. -/
def bracedDigits : List Char → List Char × List Char × Bool
  | [] => ([], [], false)
  | c :: rest =>
    if c == '\x7d' then ([], rest, true)
    else if Entity.isHexDigit c then
      let (ds, r, closed) := bracedDigits rest
      (c :: ds, r, closed)
    else ([], c :: rest, false)

/-- The escape after `\u`, at `offset`. -/
def unicodeEscape (cs : List Char) (offset : Nat) : Escape :=
  match cs with
  | '\x7b' :: rest =>
    let (ds, after, closed) := bracedDigits rest
    let left : Remaining := ⟨after, offset + 1 + ds.length + if closed then 1 else 0⟩
    let n := Entity.digitsValue 16 ds
    if ds.isEmpty || !closed then ⟨.error (.badEscape "1-6 hex characters"), left⟩
    else if n > 0x10FFFF then
      ⟨.error (.badEscape "1-6 hex characters in the range 0 to 10FFFF."), left⟩
    else ⟨.ok [n], left⟩
  | a :: b :: c :: d :: rest =>
    if [a, b, c, d].all Entity.isHexDigit then
      ⟨.ok [Entity.digitsValue 16 [a, b, c, d]], ⟨rest, offset + 4⟩⟩
    else ⟨.error (.badEscape "4 hex characters"), ⟨cs, offset⟩⟩
  | cs => ⟨.error (.badEscape "4 hex characters"), ⟨cs, offset⟩⟩

/-- The escape after `\x`, at `offset`. -/
def hexEscape (cs : List Char) (offset : Nat) : Escape :=
  match cs with
  | a :: b :: rest =>
    if Entity.isHexDigit a && Entity.isHexDigit b then
      ⟨.ok [Entity.digitsValue 16 [a, b]], ⟨rest, offset + 2⟩⟩
    else ⟨.error (.badEscape "2 hex characters"), ⟨cs, offset⟩⟩
  | cs => ⟨.error (.badEscape "2 hex characters"), ⟨cs, offset⟩⟩

/-- Is `c` a digit of base eight? -/
def isOctalDigit (c : Char) : Bool := '0' ≤ c && c ≤ '7'

/-- The digits of an octal escape: up to three if the first is at most 3, else up to two. -/
def octalDigits (cs : List Char) : List Char :=
  match cs with
  | a :: b :: c :: _ =>
    if isOctalDigit b then if a ≤ '3' && isOctalDigit c then [a, b, c] else [a, b] else [a]
  | [a, b] => if isOctalDigit b then [a, b] else [a]
  | cs => cs.take 1

/-- The character of a one-letter escape. -/
def letterEscape (c : Char) : Nat :=
  if c == 'n' then 10
  else if c == 't' then 9
  else if c == 'r' then 13
  else if c == 'b' then 8
  else if c == 'v' then 11
  else if c == 'f' then 12
  else c.toNat

/-- The escape after a backslash. Templates have no octal escapes but `\0`. -/
def escape (inTemplate : Bool) (c : Char) (rest : List Char) (offset : Nat) : Escape :=
  let after := offset + c.utf8Size
  if c == 'u' then unicodeEscape rest after
  else if c == 'x' then hexEscape rest after
  else if c == '\r' then
    match rest with
    | '\n' :: rest => ⟨.ok [], ⟨rest, after + 1⟩⟩
    | rest => ⟨.ok [], ⟨rest, after⟩⟩
  else if isLineTerminator c then ⟨.ok [], ⟨rest, after⟩⟩
  else if isOctalDigit c then
    if inTemplate then
      if c == '0' && !(rest.head?.map Char.isDigit).getD false then ⟨.ok [0], ⟨rest, after⟩⟩
      else ⟨.error .octalInTemplate, ⟨rest, after⟩⟩
    else
      let ds := octalDigits (c :: rest)
      ⟨.ok [Entity.digitsValue 8 ds], ⟨rest.drop (ds.length - 1), offset + ds.length⟩⟩
  else ⟨.ok [letterEscape c], ⟨rest, after⟩⟩

/-! ## Strings -/

/-- The code points of a string after its opening quote, and what follows its closing quote. Each
step takes a character, so `fuel` need only exceed their number. -/
def stringCodes (quote : Char) : Nat → Remaining → Except ParseError (List Nat × Remaining)
  | 0, _ => .error .unterminatedString
  | fuel + 1, r =>
    match r.chars with
    | [] => .error .unterminatedString
    | c :: rest =>
      if c == quote then .ok ([], ⟨rest, r.offset + 1⟩)
      else if c == '\\' then
        match rest with
        | [] => .error .unterminatedString
        | d :: rest => do
          let e := escape false d rest (r.offset + 1)
          let codes ← e.value
          let (more, r) ← stringCodes quote fuel e.rest
          return (codes ++ more, r)
      else if c == '\n' || c == '\r' then .error .unterminatedString
      else do
        let (more, r) ← stringCodes quote fuel ⟨rest, r.offset + c.utf8Size⟩
        return (c.toNat :: more, r)

/-- The string whose opening quote has been read. A string with half a surrogate pair has an empty
value. -/
def string (quote : Char) (r : Remaining) : Except ParseError (String × Remaining) := do
  let (codes, r) ← stringCodes quote (r.chars.length + 1) r
  return (String.ofList ((textOfCodes? codes).getD []), r)

/-! ## Templates -/

/-- How a segment of a template ends. -/
inductive SegmentEnd where
  | quote
  /-- An interpolation begins. -/
  | hole
  | endOfText
deriving DecidableEq, Repr

/-- A segment of a template. -/
structure Segment where
  /-- Code points, or the first escape that stands for nothing. -/
  codes : Except ParseError (List Nat)
  stop : SegmentEnd
  rest : Remaining

/-- A segment with code points in front. -/
def Segment.push (codes : Except ParseError (List Nat)) (s : Segment) : Segment :=
  { s with codes := do return (← codes) ++ (← s.codes) }

/-- The segment at the front of a text. A line break of any kind counts as a line feed. -/
def segmentFrom : Nat → Remaining → Segment
  | 0, r => ⟨.ok [], .endOfText, r⟩
  | fuel + 1, r =>
    match r.chars with
    | [] => ⟨.ok [], .endOfText, r⟩
    | '\x60' :: rest => ⟨.ok [], .quote, ⟨rest, r.offset + 1⟩⟩
    | '$' :: '\x7b' :: rest => ⟨.ok [], .hole, ⟨rest, r.offset + 2⟩⟩
    | '\\' :: c :: rest =>
      let e := escape true c rest (r.offset + 1)
      (segmentFrom fuel e.rest).push e.value
    | '\r' :: '\n' :: rest => (segmentFrom fuel ⟨rest, r.offset + 2⟩).push (.ok [10])
    | '\r' :: rest => (segmentFrom fuel ⟨rest, r.offset + 1⟩).push (.ok [10])
    | c :: rest => (segmentFrom fuel ⟨rest, r.offset + c.utf8Size⟩).push (.ok [c.toNat])

/-- The segment at the front of a text. -/
def segment (r : Remaining) : Segment := segmentFrom (r.chars.length + 1) r

/-- The value of a segment: none if an escape stands for nothing or for half a surrogate pair. -/
def Segment.cooked (s : Segment) : Option String :=
  match s.codes with
  | .ok codes => (textOfCodes? codes).map String.ofList
  | .error _ => none

/-! ## Numbers and regular expressions -/

/-- Takes characters of a class. -/
def takeClass (p : Char → Bool) (cs : List Char) : List Char × List Char :=
  (cs.takeWhile p, cs.dropWhile p)

/-- Is `c` a digit or a separator between digits? -/
def isDigitOrBar (c : Char) : Bool := c.isDigit || c == '_'

/-- The exponent at the front, if there is one. -/
def takeExponent (cs : List Char) : List Char × List Char :=
  match cs with
  | e :: rest =>
    if e == 'e' || e == 'E' then
      match rest with
      | sign :: after =>
        if sign == '+' || sign == '-' then
          let (ds, r) := takeClass isDigitOrBar after
          (e :: sign :: ds, r)
        else
          let (ds, r) := takeClass isDigitOrBar rest
          (e :: ds, r)
      | [] => ([e], [])
    else ([], cs)
  | [] => ([], [])

/-- The characters of a number, and what follows it. -/
def number (cs : List Char) : List Char × List Char :=
  let based (lead : List Char) (rest : List Char) : List Char × List Char :=
    let (ds, r) := takeClass (fun c => Entity.isHexDigit c || c == '_') rest
    match r with
    | 'n' :: r => (lead ++ ds ++ ['n'], r)
    | r => (lead ++ ds, r)
  match cs with
  | '0' :: x :: rest =>
    if "xXoObB".toList.contains x then based ['0', x] rest else decimal cs
  | cs => decimal cs
where
  /-- A number in base ten. -/
  decimal (cs : List Char) : List Char × List Char :=
    let (whole, r) := takeClass isDigitOrBar cs
    match r with
    | 'n' :: r => (whole ++ ['n'], r)
    | '.' :: r =>
      let (places, r) := takeClass isDigitOrBar r
      let (exponent, r) := takeExponent r
      (whole ++ '.' :: places ++ exponent, r)
    | r =>
      let (exponent, r) := takeExponent r
      (whole ++ exponent, r)

/-- The body of a regular expression after its opening slash; `inClass` inside brackets. -/
def regExpBody (inClass : Bool) : List Char → Except ParseError (List Char × List Char)
  | [] => .error .unterminatedRegExp
  | '\\' :: c :: rest =>
    if isLineTerminator c then .error .unterminatedRegExp
    else do
      let (body, r) ← regExpBody inClass rest
      return ('\\' :: c :: body, r)
  | c :: rest =>
    if isLineTerminator c then .error .unterminatedRegExp
    else if c == '/' && !inClass then .ok ([], rest)
    else do
      let (body, r) ← regExpBody (if c == '[' then true else if c == ']' then false else inClass) rest
      return (c :: body, r)

/-- The regular expression whose opening slash has been read, with its flags; gives what follows. -/
def regExp (r : Remaining) : Except ParseError Remaining := do
  let (body, rest) ← regExpBody false r.chars
  let (flags, rest) := takeClass Text.isNamePart rest
  let bytes := (String.ofList (body ++ flags)).utf8ByteSize + 1
  return ⟨rest, r.offset + bytes⟩

/-! ## Inline text and attribute strings -/

/-- Inline text up to a tag or a brace, in which entities stand for characters. -/
def inlineText : Nat → Remaining → List Char × Remaining
  | 0, r => ([], r)
  | fuel + 1, r =>
    match r.chars with
    | [] => ([], r)
    | c :: rest =>
      if c == '<' || c == '\x7b' then ([], r)
      else
        match if c == '&' then Entity.decode? rest else none with
        | some (d, after) =>
          let (cs, r) := inlineText fuel ⟨after, r.offset + 1 + (rest.length - after.length)⟩
          (d :: cs, r)
        | none =>
          let (cs, r) := inlineText fuel ⟨rest, r.offset + c.utf8Size⟩
          (c :: cs, r)

/-- An attribute string after its opening quote. It has entities but no escapes; a carriage return
with a line feed is kept and followed by one more line feed. -/
def attributeString (quote : Char) : Nat → Remaining → Except ParseError (List Char × Remaining)
  | 0, _ => .error .unterminatedString
  | fuel + 1, r =>
    match r.chars with
    | [] => .error .unterminatedString
    | '\r' :: '\n' :: rest => do
      let (cs, r) ← attributeString quote fuel ⟨rest, r.offset + 2⟩
      return ('\r' :: '\n' :: '\n' :: cs, r)
    | c :: rest =>
      if c == quote then .ok ([], ⟨rest, r.offset + 1⟩)
      else
        match if c == '&' then Entity.decode? rest else none with
        | some (d, after) => do
          let (cs, r) ←
            attributeString quote fuel ⟨after, r.offset + 1 + (rest.length - after.length)⟩
          return (d :: cs, r)
        | none => do
          let (cs, r) ← attributeString quote fuel ⟨rest, r.offset + c.utf8Size⟩
          return (c :: cs, r)

end Literal

end MessageLint.Source

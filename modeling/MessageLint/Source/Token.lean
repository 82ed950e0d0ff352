import MessageLint.Source.Literal

/-!
# MessageLint — tokens

The tokens of a source text, one at a time. Where a slash, an angle bracket or a closing brace
begins something else than an operator, the parser takes the text from the token's start instead.

Comments begin with two slashes or with a slash and an asterisk. The markers `<!--` and `-->`, with
which a script can begin a comment too, are read as operators.
-/

namespace MessageLint.Source

/-- What a token is. -/
inductive TokenKind where
  /-- A name or a keyword; keywords written with escapes are names. -/
  | name (s : String) (escaped : Bool)
  | privateName
  | number
  | bigInt
  | string (value : String)
  /-- The quote that opens a template. -/
  | templateQuote
  /-- An operator or a bracket. Angle brackets always come singly. -/
  | punct (s : String)
  | endOfText
  /-- Nothing that a program can hold. -/
  | invalid (reason : ParseError)
deriving DecidableEq, Repr

/-- A comment between tokens: where it starts, and the text between its delimiters. -/
structure RawComment where
  start : Nat
  text : String
deriving DecidableEq, Repr

/-- A token in its place. -/
structure Token where
  kind : TokenKind
  /-- The text from the token's first character on. -/
  here : Remaining
  /-- The text after the token. -/
  after : Remaining
  /-- Does a line break stand before it? -/
  newlineBefore : Bool
  /-- The comments before it. -/
  comments : List RawComment
deriving Repr

/-- Where the token starts. -/
def Token.start (t : Token) : Nat := t.here.offset

namespace Trivia

/-- Is `c` blank between tokens, line terminators apart? -/
def isSpace (c : Char) : Bool :=
  let n := c.toNat
  n == 9 || n == 11 || n == 12 || n == 32 || n == 0xA0 || n == 0xFEFF || n == 0x1680 ||
    (0x2000 ≤ n && n ≤ 0x200B) || n == 0x202F || n == 0x205F || n == 0x3000

/-- What stands between tokens. -/
structure Result where
  rest : Remaining
  newline : Bool
  /-- Comments, the last one first. -/
  comments : List RawComment
  unterminated : Bool

/-- Where the reading of trivia is. -/
inductive Mode where
  | blanks
  /-- Inside a comment: where it starts, and its text so far, reversed. -/
  | line (start : Nat) (text : List Char)
  | block (start : Nat) (text : List Char)

/-- Skips blanks and comments. -/
def skip : Mode → Nat → Bool → List RawComment → List Char → Result
  | .blanks, offset, newline, comments, '/' :: '/' :: rest =>
    skip (.line offset []) (offset + 2) newline comments rest
  | .blanks, offset, newline, comments, '/' :: '*' :: rest =>
    skip (.block offset []) (offset + 2) newline comments rest
  | .blanks, offset, newline, comments, c :: rest =>
    if isLineTerminator c then skip .blanks (offset + c.utf8Size) true comments rest
    else if isSpace c then skip .blanks (offset + c.utf8Size) newline comments rest
    else ⟨⟨c :: rest, offset⟩, newline, comments, false⟩
  | .blanks, offset, newline, comments, [] => ⟨⟨[], offset⟩, newline, comments, false⟩
  | .line start text, offset, newline, comments, c :: rest =>
    if isLineTerminator c then
      skip .blanks (offset + c.utf8Size) true
        (⟨start, String.ofList text.reverse⟩ :: comments) rest
    else skip (.line start (c :: text)) (offset + c.utf8Size) newline comments rest
  | .line start text, offset, newline, comments, [] =>
    ⟨⟨[], offset⟩, newline, ⟨start, String.ofList text.reverse⟩ :: comments, false⟩
  | .block start text, offset, newline, comments, '*' :: '/' :: rest =>
    skip .blanks (offset + 2) newline (⟨start, String.ofList text.reverse⟩ :: comments) rest
  | .block start text, offset, newline, comments, c :: rest =>
    skip (.block start (c :: text)) (offset + c.utf8Size) (newline || isLineTerminator c) comments
      rest
  | .block _ _, offset, newline, comments, [] => ⟨⟨[], offset⟩, newline, comments, true⟩

end Trivia

namespace Token

/-- Operators and brackets of several characters, longer ones first. -/
def longPuncts : List (List Char) :=
  ["...", "===", "!==", "**=", "&&=", "||=", "??=", "=>", "==", "!=", "++", "--", "&&", "||", "??",
    "?.", "+=", "-=", "*=", "/=", "%=", "&=", "|=", "^=", "**"].map String.toList

/-- Operators and brackets of one character. -/
def shortPuncts : List Char := "\x7b\x7d()[];,<>+-*/%&|^!~?:=.@#".toList

/-- Is the character at the front a digit? -/
def startsWithDigit (cs : List Char) : Bool := (cs.head?.map Char.isDigit).getD false

/-- The operator or bracket at the front. `?.` before a digit is a question mark. -/
def punct? (cs : List Char) : Option (List Char) :=
  match longPuncts.find? (·.isPrefixOf cs) with
  | some p => if p == ['?', '.'] && startsWithDigit (cs.drop 2) then some ['?'] else some p
  | none =>
    match cs with
    | c :: _ => if shortPuncts.contains c then some [c] else none
    | [] => none

/-- Does a name start here, plainly or with an escape? -/
def startsName (cs : List Char) : Bool :=
  match cs with
  | '\\' :: 'u' :: _ => true
  | c :: _ => Text.isNameStart c
  | [] => false

/-- The characters of a name, whether it has escapes, and what follows it. -/
def nameChars : Nat → Remaining → Except ParseError (List Char × Bool × Remaining)
  | 0, r => .ok ([], false, r)
  | fuel + 1, r =>
    match r.chars with
    | '\\' :: 'u' :: rest => do
      let e := Literal.unicodeEscape rest (r.offset + 2)
      let codes ← e.value
      let (cs, _, r) ← nameChars fuel e.rest
      return (codes.map Char.ofNat ++ cs, true, r)
    | c :: rest =>
      if Text.isNamePart c then do
        let (cs, escaped, r) ← nameChars fuel ⟨rest, r.offset + c.utf8Size⟩
        return (c :: cs, escaped, r)
      else .ok ([], false, r)
    | [] => .ok ([], false, r)

/-- The name at the front. -/
def name (r : Remaining) : TokenKind × Remaining :=
  match nameChars (r.chars.length + 1) r with
  | .ok (cs, escaped, rest) => (.name (String.ofList cs) escaped, rest)
  | .error e => (.invalid e, r)

/-- The number at the front. -/
def number (r : Remaining) : TokenKind × Remaining :=
  let (digits, rest) := Literal.number r.chars
  let after : Remaining := ⟨rest, r.offset + digits.length⟩
  if startsName rest then (.invalid .nameAfterNumber, after)
  else if digits.getLast? == some 'n' then (.bigInt, after)
  else (.number, after)

/-- The token at the front of a text that begins with neither blanks nor comments. -/
def kindAt (r : Remaining) : TokenKind × Remaining :=
  match r.chars with
  | [] => (.endOfText, r)
  | c :: rest =>
    if startsName r.chars then name r
    else if c.isDigit || (c == '.' && startsWithDigit rest) then number r
    else if c == '"' || c == '\'' then
      match Literal.string c ⟨rest, r.offset + 1⟩ with
      | .ok (value, after) => (.string value, after)
      | .error e => (.invalid e, r)
    else if c == '\x60' then (.templateQuote, ⟨rest, r.offset + 1⟩)
    else if c == '#' && startsName rest then
      (.privateName, (name ⟨rest, r.offset + 1⟩).2)
    else
      match punct? r.chars with
      | some p => (.punct (String.ofList p), ⟨r.chars.drop p.length, r.offset + p.length⟩)
      | none => (.invalid (.unexpectedCharacter c), r)

/-- The next token of a text. -/
def next (r : Remaining) : Token :=
  let trivia := Trivia.skip .blanks r.offset false [] r.chars
  let comments := trivia.comments.reverse
  if trivia.unterminated then
    ⟨.invalid .unterminatedComment, trivia.rest, trivia.rest, trivia.newline, comments⟩
  else
    let (kind, after) := kindAt trivia.rest
    ⟨kind, trivia.rest, after, trivia.newline, comments⟩

/-- Words that no variable can be named. -/
def reservedWords : List String :=
  ["await", "break", "case", "catch", "class", "const", "continue", "debugger", "default",
    "delete", "do", "else", "enum", "export", "extends", "false", "finally", "for", "function",
    "if", "import", "in", "instanceof", "new", "null", "return", "super", "switch", "this",
    "throw", "true", "try", "typeof", "var", "void", "while", "with"]

/-- Words with a meaning in some places, which messages call by themselves. -/
def knownWords : List String :=
  ["abstract", "accessor", "any", "as", "asserts", "assert", "async", "bigint", "boolean",
    "declare", "from", "get", "global", "implements", "infer", "interface", "intrinsic", "is",
    "keyof", "let", "meta", "module", "namespace", "never", "number", "object", "of", "out",
    "override", "package", "private", "protected", "public", "readonly", "require", "satisfies",
    "set", "static", "string", "symbol", "target", "type", "undefined", "unique", "unknown",
    "using", "yield"]

/-- What messages call a token. -/
def describe (t : Token) : String :=
  match t.kind with
  | .name s escaped =>
    if !escaped && (reservedWords.contains s || knownWords.contains s) then s else "ident"
  | .privateName => "#"
  | .number => "numeric literal"
  | .bigInt => "bigint literal"
  | .string _ => "string literal"
  | .templateQuote => "`"
  | .punct s => s
  | .endOfText => "<eof>"
  | .invalid _ => "<error>"

/-- Is the token this operator or bracket? -/
def isPunct (t : Token) (s : String) : Bool :=
  match t.kind with
  | .punct p => p == s
  | _ => false

/-- Is the token this word, written without escapes? -/
def isWord (t : Token) (s : String) : Bool :=
  match t.kind with
  | .name n false => n == s
  | _ => false

/-- The text of a name or keyword. -/
def word? (t : Token) : Option String :=
  match t.kind with
  | .name n _ => some n
  | _ => none

/-- The name that a variable can have. -/
def identifier? (t : Token) : Option String :=
  match t.kind with
  | .name n escaped => if !escaped && reservedWords.contains n then none else some n
  | _ => none

/-- Is it the end of the text? -/
def isEnd (t : Token) : Bool :=
  match t.kind with
  | .endOfText => true
  | _ => false

end Token

end MessageLint.Source

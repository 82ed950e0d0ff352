import MessageLint.Source.Parser.Expressions

/-!
# MessageLint — parsing: elements

Elements and fragments with their attributes and children. Between tags and braces stands text,
which has no tokens.
-/

namespace MessageLint.Source.Parser

/-! ## Names -/

/-- Is `c` part of the name of an element or attribute? -/
def isTagNamePart (c : Char) : Bool := c == '-' || Text.isNamePart c

/-- A name of an element or attribute, in which hyphens can stand. -/
def tagName : Parser String := do
  let t ← peek
  match t.kind with
  | .name _ _ =>
    let cs := t.here.chars.takeWhile isTagNamePart
    takeUpTo ⟨t.here.chars.drop cs.length, t.here.offset + (String.ofList cs).utf8ByteSize⟩
    return String.ofList cs
  | _ => fail (.unexpected t.describe "jsx identifier")

/-- The name of an element: plain, in a namespace, or a member of something. -/
inductive ElementName where
  | plain (s : String)
  | compound (s : String)

namespace ElementName

/-- The name as written. -/
def text : ElementName → String
  | plain s | compound s => s

/-- The name if it is a plain one. -/
def plain? : ElementName → Option String
  | plain s => some s
  | compound _ => none

end ElementName

/-- The name of an element. -/
def elementName : Parser ElementName := do
  let first ← tagName
  if ← eat ":" then return .compound (first ++ ":" ++ (← tagName))
  else
    let more ← many do
      if ← eat "." then return some (← tagName) else return none
    if more.isEmpty then return .plain first
    else return .compound (".".intercalate (first :: more))

/-! ## Attributes -/

/-- An expression in braces, from the opening brace on. -/
def bracedExpression (g : Grammar) : Parser Expr := do
  expect "\x7b"
  let e ← within bracketed g.expression
  expect "\x7d"
  return e

/-- The quote at the front of a text. -/
def quote? (r : Remaining) : Option Char :=
  match r.chars with
  | c :: _ => if c == '"' || c == '\'' then some c else none
  | [] => none

/-- The value of an attribute, after its equals sign. -/
def attributeValue (g : Grammar) : Parser AttributeValue := do
  let t ← peek
  match quote? t.here with
  | some quote =>
    let inside : Remaining := ⟨t.here.chars.drop 1, t.start + 1⟩
    match Literal.attributeString quote (inside.chars.length + 1) inside with
    | .ok (cs, after) =>
      takeUpTo after
      return .expr (.string t.start (String.ofList cs))
    | .error e => giveUp e
  | none =>
    if t.isPunct "\x7b" then return .braces t.start (some (← bracedExpression g))
    else if t.isPunct "<" then
      match ← g.element with
      | .other _ .fragment children => return .fragment children
      | e => return .expr e
    else fail .attributeValueExpected

/-- An attribute with a name, or an object whose properties are attributes. -/
def elementAttribute (g : Grammar) : Parser Attribute := do
  let t ← peek
  if ← eat "\x7b" then
    expect "..."
    let e ← within bracketed g.assignment
    expect "\x7d"
    return .spread e
  else
    let name ← tagName
    let name ← if ← eat ":" then pure (name ++ ":" ++ (← tagName)) else pure name
    if ← eat "=" then return .named t.start name (← attributeValue g)
    else return .named t.start name .absent

/-- The attributes of an element, up to the end of its tag. -/
def attributes (g : Grammar) : Parser (List Attribute) := many do
  if (← atPunct ">") || (← atPunct "/") then return none
  return some (← elementAttribute g)

/-! ## Children -/

/-- The parts that a child leaves: a fragment leaves only its own children. -/
def childParts : Expr → List Part
  | .other _ .fragment parts => parts
  | e => [.expr e]

/-- Braces among the children, after the opening brace. -/
def childBraces (g : Grammar) (start : Nat) : Parser Part := do
  if ← eat "\x7d" then return .braces start none
  else if ← eat "..." then
    let e ← within bracketed g.expression
    expect "\x7d"
    return .expr e
  else
    let e ← within bracketed g.expression
    expect "\x7d"
    return .braces start (some e)

/-- A child at the front of a text, or none if the text ends or a closing tag follows. -/
def child? (g : Grammar) (r : Remaining) : Parser (Option (List Part)) := do
  match r.chars with
  | [] => return none
  | '<' :: '/' :: _ => return none
  | '<' :: _ =>
    resume r
    return some (childParts (← g.element))
  | '\x7b' :: rest =>
    resume ⟨rest, r.offset + 1⟩
    return some [← childBraces g r.offset]
  | _ =>
    let (cs, after) := Literal.inlineText (r.chars.length + 1) r
    resume after
    return some [.inlineText r.offset (String.ofList cs)]

/-- What stands where a closing tag should begin. -/
def describeAmongChildren (r : Remaining) : String :=
  match r.chars with
  | [] => "<eof>"
  | '<' :: _ => "<"
  | '\x7b' :: _ => "\x7b"
  | _ => "jsx text"

/-- Children up to a closing tag, which begins at the next token then. A child that cannot be parsed
ends them where the fault is. -/
def children (g : Grammar) : Nat → Parser (List Part)
  | 0 => giveUp .tooDeep
  | fuel + 1 => do
    let r := (← get).rest
    match ← salvage (child? g r) with
    | .ok (some parts) => return parts ++ (← children g fuel)
    | .ok none =>
      resume r
      return []
    | .error (.closingTagExpected _) =>
      let r := (← get).rest
      resume r
      match r.chars with
      | '<' :: '/' :: _ => return []
      | _ => fail (.expected "</" (describeAmongChildren r))
    | .error _ => return []

/-- The beginning of a closing tag. -/
def closingMark : Parser Unit := do
  let t ← peek
  match t.here.chars with
  | '<' :: '/' :: _ =>
    let _ ← take
    let _ ← take
  | _ => failExpected "</"

/-- The children of an element after its opening tag, and its closing tag. -/
def elementTail (g : Grammar) (name : ElementName) : Parser (List Part) := do
  let parts ← children g (← steps)
  closingMark
  if ← atPunct ">" then fail .expressionExpected
  let closing ← elementName
  expect ">"
  if closing.text != name.text then giveUp (.closingTagExpected name.text)
  return parts

/-- A fragment, after its opening angle bracket. -/
def fragmentTail (g : Grammar) (start : Nat) : Parser Expr := do
  expect ">"
  let parts ← children g (← steps)
  closingMark
  expect ">"
  return .other start .fragment parts

/-- An element or a fragment. -/
def element (g : Grammar) : Parser Expr := do
  let t ← peek
  require (!"</".toList.isPrefixOf t.here.chars)
  expect "<"
  if ← atPunct ">" then fragmentTail g t.start
  else
    let name ← elementName
    let _ ← typeArgumentsOpt g
    let attributes ← attributes g
    if ← eat "/" then
      expect ">"
      return .element t.start name.plain? attributes []
    else
      expect ">"
      return .element t.start name.plain? attributes (← elementTail g name)

end MessageLint.Source.Parser

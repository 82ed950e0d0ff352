import MessageLint.Source.Parser.Patterns

/-!
# MessageLint — parsing: functions and classes

Functions are visited parameters first, then the body, then the types; classes body first, then what
they extend.
-/

namespace MessageLint.Source.Parser

/-- Statements up to the closing brace or the end of the text. -/
def statements (g : Grammar) : Parser (List Part) := do
  let parts ← many do
    if (← atPunct "\x7d") || (← peek).isEnd then return none
    return some (← g.statement)
  return parts.flatten

/-- Statements in braces. The end of the text closes them too. -/
def block (g : Grammar) : Parser (List Part) := do
  expect "\x7b"
  let parts ← within bracketed (statements g)
  if !(← eat "\x7d") && !(← peek).isEnd then fail .expressionExpected
  return parts

/-- Surroundings inside the parameters and the body of a function. -/
def inFunction (isGenerator : Bool) (c : Context) : Context :=
  { bracketed c with inGenerator := isGenerator }

/-- The body of a function; a declaration without one ends like a statement. -/
def bodyOpt (g : Grammar) : Parser (List Part) := do
  if ← atPunct "\x7b" then block g
  else if ← eatStatementEnd then return []
  else failExpected "\x7b"

/-- A function from its type parameters on. -/
def functionTail (g : Grammar) (isGenerator : Bool) : Parser (List Part) :=
  within (inFunction isGenerator) do
    let generics ← typeParametersOpt g
    let ps ← parameters g
    let result ← resultTypeOpt g
    let body ← bodyOpt g
    return ps ++ body ++ generics ++ result

/-- A function from the word `function` on. A declaration needs a name. -/
def functionFrom (g : Grammar) (named : Bool) : Parser (List Part) := do
  expectWord "function"
  let isGenerator ← eat "*"
  if named || !((← atPunct "(") || (← atPunct "<")) then
    let _ ← bindingName
  functionTail g isGenerator

/-! ## Classes -/

/-- Words that can stand before a member of a class. -/
def memberModifiers : List String :=
  ["declare", "public", "private", "protected", "static", "abstract", "override", "readonly",
    "accessor", "async", "get", "set"]

/-- Takes the words that modify the member after them. -/
def eatMemberModifiers : Parser Unit := do
  let _ ← many do
    match (← peek).word? with
    | some s =>
      if memberModifiers.contains s && (← eatModifier s) then return some () else return none
    | none => return none

/-- A method or a property of a class, after its modifiers. -/
def classElement (g : Grammar) : Parser (List Part) := do
  let isGenerator ← eat "*"
  let key ← propertyKey g
  if !(← eat "?") then
    let _ ← eat "!"
  if (← atPunct "(") || (← atPunct "<") then
    return key ++ (← functionTail g isGenerator)
  else
    let type ← typeAnnotationOpt g
    let value ← defaultOpt g
    let _ ← eat ";"
    return key ++ value ++ type

/-- A member of a class. -/
def classMember (g : Grammar) : Parser (List Part) := do
  if ← eat ";" then return []
  if (← atWord "static") && (← peekSecond).isPunct "\x7b" then
    let _ ← take
    within (inFunction false) (block g)
  else
    eatMemberModifiers
    if ← succeeds indexHead then
      let parts ← indexSignature g
      let _ ← eat ";"
      return parts
    else classElement g

/-- The members of a class in braces. -/
def classBody (g : Grammar) : Parser (List Part) := do
  expect "\x7b"
  let members ← within bracketed <| many do
    if (← atPunct "\x7d") || (← peek).isEnd then return none
    return some (← classMember g)
  expect "\x7d"
  return members.flatten

/-- The class that a class extends, and the types given to it. -/
def superclass (g : Grammar) : Parser (List Part × List Part) := do
  match ← g.unary with
  | .other _ .expression (.expr e :: types) => return ([.expr e], types)
  | e => return ([.expr e], ← typeArgumentsOpt g)

/-- The name of something extended or implemented, which counts as an expression, and the types
given to it. -/
def heritage (g : Grammar) : Parser (List Part) := do
  let t ← peek
  let name ← anyName
  let e ← extend (fun e => do
    if ← eat "." then
      let _ ← anyName
      return some (Expr.member t.start [.expr e])
    else return none) (Expr.identifier t.start name)
  return Part.expr e :: (← typeArgumentsOpt g)

/-- Names of things extended or implemented, with commas between them. -/
def heritageList (g : Grammar) : Parser (List Part) := do
  let first ← heritage g
  let more ← many do
    if ← eat "," then return some (← heritage g) else return none
  return first ++ more.flatten

/-- A class from the word `class` on. A declaration needs a name. -/
def classFrom (g : Grammar) (named : Bool) : Parser (List Part) := do
  expectWord "class"
  let t ← peek
  if named || !(t.isPunct "\x7b" || t.isPunct "<" || t.isWord "extends" ||
      (t.isWord "implements" && !(← peekSecond).isPunct "\x7b")) then
    let _ ← bindingName
  let generics ← typeParametersOpt g
  let (super, superTypes) ← if ← eatWord "extends" then superclass g else pure ([], [])
  let interfaces ← if ← eatWord "implements" then heritageList g else pure []
  let body ← classBody g
  return body ++ super ++ generics ++ superTypes ++ interfaces

end MessageLint.Source.Parser

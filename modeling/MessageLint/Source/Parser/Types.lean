import MessageLint.Source.Parser.Basic

/-!
# MessageLint — parsing: types

Types leave the string literals they hold, and the keys of their members. Operators between types
keep the order of their operands, so their precedence is of no consequence.
-/

namespace MessageLint.Source.Parser

/-- A string literal token as a part. -/
def stringPart? (t : Token) : Option Part :=
  match t.kind with
  | .string value => some (.expr (.string t.start value))
  | _ => none

/-- A string literal. -/
def stringLiteral : Parser (List Part) := do
  let t ← peek
  match stringPart? t with
  | some part =>
    let _ ← take
    return [part]
  | none => failExpected "string literal"

/-- What a template in a type or an expression holds, after its opening quote. Only a tagged
template may have escapes that stand for nothing. -/
def templateFrom {α : Type} (hole : Parser α) (tagged : Bool) :
    Nat → Remaining → Parser (List (Option String) × List α)
  | 0, _ => giveUp .tooDeep
  | fuel + 1, r => do
    let segment := Literal.segment r
    match segment.codes with
    | .error e => if !tagged then giveUp e
    | .ok _ => pure ()
    match segment.stop with
    | .endOfText => giveUp .unterminatedTemplate
    | .quote =>
      resume segment.rest
      return ([segment.cooked], [])
    | .hole =>
      resume segment.rest
      let x ← within bracketed hole
      let t ← peek
      if !t.isPunct "\x7d" then fail (.unexpected t.describe "`\x7d`")
      takeComments
      let (quasis, xs) ← templateFrom hole tagged fuel t.after
      return (segment.cooked :: quasis, x :: xs)

/-- A template whose opening quote is the next token. -/
def templateBody {α : Type} (hole : Parser α) (tagged : Bool) :
    Parser (List (Option String) × List α) := do
  let t ← peek
  takeComments
  templateFrom hole tagged (t.after.chars.length + 1) t.after

/-- Names with dots between them. -/
def dottedNames : Parser Unit := do
  let _ ← anyName
  let _ ← many do
    if ← eat "." then
      let _ ← anyName
      return some ()
    else return none

/-- Surroundings inside the brackets of a type. -/
def inType (c : Context) : Context := { bracketed c with allowConditionalType := true }

/-- The arguments of a generic. -/
def typeArguments (g : Grammar) : Parser (List Part) := do
  return (← within inType (listOf "<" ">" g.type)).flatten

/-- The arguments of a generic, if there are any. -/
def typeArgumentsOpt (g : Grammar) : Parser (List Part) := do
  if ← atPunct "<" then typeArguments g else return []

/-- A parameter of a generic, with its constraint and its default. -/
def typeParameter (g : Grammar) : Parser (List Part) := do
  let _ ← many do
    let t ← peek
    if (t.isWord "const" || t.isWord "in" || t.isWord "out") &&
        (← peekSecond).word?.isSome then
      let _ ← take
      return some ()
    else return none
  let _ ← anyName
  let constraint ← if ← eatWord "extends" then g.type else pure []
  let default ← if ← eat "=" then g.type else pure []
  return constraint ++ default

/-- The parameters of a generic, if there are any. -/
def typeParametersOpt (g : Grammar) : Parser (List Part) := do
  if ← atPunct "<" then return (← within inType (listOf "<" ">" (typeParameter g))).flatten
  else return []

/-- Words that can stand before a parameter of a constructor. -/
def parameterModifiers : List String :=
  ["public", "private", "protected", "readonly", "override"]

/-- Can the token begin a name or pattern that is declared? -/
def startsBinding (t : Token) : Bool :=
  t.word?.isSome || t.isPunct "[" || t.isPunct "\x7b"

/-- A parameter of a function: a name or pattern, its type, and its default value. -/
def parameter (g : Grammar) : Parser (List Part) := do
  let _ ← many do
    let t ← peek
    match t.word? with
    | some s =>
      if parameterModifiers.contains s && startsBinding (← peekSecond) then
        let _ ← take
        return some ()
      else return none
    | none => return none
  let _ ← eat "..."
  let bound ← if ← eatWord "this" then pure [] else g.binding
  let _ ← eat "?"
  let type ← if ← eat ":" then within inType g.type else pure []
  let default ← if ← eat "=" then
      let e ← within bracketed g.assignment
      pure [Part.expr e]
    else pure []
  return bound ++ type ++ default

/-- The parameters of a function. -/
def parameters (g : Grammar) : Parser (List Part) := do
  return (← listOf "(" ")" (parameter g)).flatten

/-- The type of a result, which can be a statement about a parameter. -/
def resultType (g : Grammar) : Parser (List Part) := do
  let t ← peek
  let second ← peekSecond
  if t.isWord "asserts" && second.word?.isSome && !second.newlineBefore && !second.isWord "is" then
    let _ ← take
    let _ ← take
    if ← eatWord "is" then g.type else return []
  else if t.word?.isSome && second.isWord "is" && !second.newlineBefore then
    let _ ← take
    let _ ← take
    g.type
  else g.type

/-- The type of a result after a colon, if there is one. -/
def resultTypeOpt (g : Grammar) : Parser (List Part) := do
  if ← eat ":" then within inType (resultType g) else return []

/-- The type after a colon, if there is one. -/
def typeAnnotationOpt (g : Grammar) : Parser (List Part) := do
  if ← eat ":" then within inType g.type else return []

/-- The key of a member of a type, which counts as an expression. -/
def memberKey (g : Grammar) : Parser (List Part) := do
  let t ← peek
  match t.kind with
  | .name s _ =>
    let _ ← take
    return [.expr (.identifier t.start s)]
  | .string value =>
    let _ ← take
    return [.expr (.string t.start value)]
  | .number | .bigInt =>
    let _ ← take
    return [.expr (.other t.start .literal [])]
  | .privateName =>
    let _ ← take
    return []
  | _ =>
    if ← eat "[" then
      let e ← within bracketed g.assignment
      expect "]"
      return [.expr e]
    else
      fail (.unexpected t.describe
        "identifier, string literal, numeric literal or [ for the computed key")

/-- Does the token end the key of a member, so that a word before it is the key itself? -/
def endsKey (t : Token) : Bool :=
  t.isEnd || ["(", "<", ":", "?", ",", ";", "\x7d", "=", "!"].any t.isPunct

/-- Parameters, result and type parameters of a signature, in the order in which it is visited. -/
def signature (g : Grammar) : Parser (List Part) := do
  let generics ← typeParametersOpt g
  let ps ← parameters g
  let result ← resultTypeOpt g
  return ps ++ result ++ generics

/-- The start of an index signature: a bracket, a name and a colon. -/
def indexHead : Parser Unit := do
  expect "["
  let _ ← anyName
  expect ":"

/-- An index signature, from its bracket on. -/
def indexSignature (g : Grammar) : Parser (List Part) := do
  indexHead
  let key ← within inType g.type
  expect "]"
  return key ++ (← typeAnnotationOpt g)

/-- Takes a word that modifies the key after it. -/
def eatModifier (s : String) : Parser Bool := do
  if (← atWord s) && !endsKey (← peekSecond) then
    let _ ← take
    return true
  else return false

/-- A member of a type. -/
def typeMember (g : Grammar) : Parser (List Part) := do
  let t ← peek
  let second ← peekSecond
  if t.isPunct "(" || t.isPunct "<" then signature g
  else if t.isWord "new" && (second.isPunct "(" || second.isPunct "<") then
    let _ ← take
    signature g
  else
    let _ ← eatModifier "readonly"
    if ← succeeds indexHead then indexSignature g
    else if ← eatModifier "get" then
      let key ← memberKey g
      expect "("
      expect ")"
      return key ++ (← resultTypeOpt g)
    else if ← eatModifier "set" then
      let key ← memberKey g
      return key ++ (← signature g)
    else
      let key ← memberKey g
      let _ ← eat "?"
      if (← atPunct "(") || (← atPunct "<") then return key ++ (← signature g)
      else return key ++ (← typeAnnotationOpt g)

/-- The members of a type between braces. -/
def typeMembers (g : Grammar) : Parser (List Part) := do
  expect "\x7b"
  let members ← within inType <| many do
    if (← atPunct "\x7d") || (← peek).isEnd then return none
    let member ← typeMember g
    if !(← eat ",") then
      if !(← eatStatementEnd) then failExpected ";"
    return some member
  expect "\x7d"
  return members.flatten

/-- The start of a mapped type, up to the type its keys come from. -/
def mappedHead : Parser Unit := do
  expect "\x7b"
  if (← eat "+") || (← eat "-") then expectWord "readonly"
  else
    let _ ← eatWord "readonly"
  expect "["
  let _ ← anyName
  expectWord "in"

/-- A mapped type. -/
def mappedType (g : Grammar) : Parser (List Part) := do
  mappedHead
  let keys ← g.type
  let names ← if ← eatWord "as" then g.type else pure []
  expect "]"
  let _ ← eat "+"
  let _ ← eat "-"
  let _ ← eat "?"
  let values ← typeAnnotationOpt g
  let _ ← eat ";"
  let _ ← eat ","
  expect "\x7d"
  return keys ++ names ++ values

/-- An element of a tuple type, which can have a name. -/
def tupleElement (g : Grammar) : Parser (List Part) := do
  let _ ← eat "..."
  let _ ← attempt do
    let _ ← anyName
    let _ ← eat "?"
    expect ":"
  let type ← g.type
  let _ ← eat "?"
  return type

/-- What is said about a module after its name in a type: an object inside an object. -/
def importTypeOptions (g : Grammar) : Parser (List Part) := do
  expect "\x7b"
  let _ ← anyName
  expect ":"
  let e ← within bracketed g.assignment
  let _ ← eat ","
  expect "\x7d"
  return match e with
    | .other _ .object parts => parts
    | e => [.expr e]

/-- The type of a module: its name and what is taken from it. -/
def importType (g : Grammar) : Parser (List Part) := do
  expectWord "import"
  expect "("
  let source ← stringLiteral
  let options ← if (← eat ",") && !(← atPunct ")") then importTypeOptions g else pure []
  let _ ← eat ","
  expect ")"
  if ← eat "." then dottedNames
  return source ++ (← typeArgumentsOpt g) ++ options

/-- A name introduced inside a conditional type, with its constraint. -/
def inferredType (g : Grammar) : Parser (List Part) := do
  let _ ← anyName
  if ← atWord "extends" then
    let conditional := (← get).context.allowConditionalType
    let constraint ← attempt do
      let _ ← take
      let type ← within ({ · with allowConditionalType := false }) g.type
      if conditional && (← atPunct "?") then fail .expressionExpected
      return type
    return constraint.getD []
  else return []

/-- A type with no operator before or after it. -/
def primaryType (g : Grammar) : Parser (List Part) := do
  let t ← peek
  match t.kind with
  | .string value =>
    let _ ← take
    return [.expr (.string t.start value)]
  | .number | .bigInt =>
    let _ ← take
    return []
  | .templateQuote =>
    let (_, holes) ← templateBody (within inType g.type) false
    return holes.flatten
  | .name s _ =>
    if s == "typeof" then
      let _ ← take
      if ← atWord "import" then importType g
      else
        dottedNames
        if (← peek).newlineBefore then return [] else typeArgumentsOpt g
    else if s == "import" then importType g
    else
      dottedNames
      if (← peek).newlineBefore then return [] else typeArgumentsOpt g
  | _ =>
    if ← eat "-" then
      let _ ← take
      return []
    else if ← atPunct "(" then
      let _ ← take
      let type ← within inType g.type
      expect ")"
      return type
    else if ← atPunct "[" then
      return (← within inType (listOf "[" "]" (tupleElement g))).flatten
    else if ← atPunct "\x7b" then
      if ← succeeds mappedHead then within inType (mappedType g) else typeMembers g
    else fail (.unexpected t.describe "identifier, void, yield, null, await, break, a string literal, a numeric literal, true, false, `, -, import, this, typeof, \x7b, [, (")

/-- Array and index brackets after a type. -/
def typeSuffix (g : Grammar) (type : List Part) : Parser (Option (List Part)) := do
  if (← peek).newlineBefore || !(← atPunct "[") then return none
  let _ ← take
  if ← eat "]" then return some type
  let index ← within inType g.type
  expect "]"
  return some (type ++ index)

/-- Can the token begin a type? -/
def startsType (t : Token) : Bool :=
  match t.kind with
  | .name s _ => s != "extends" && s != "in" && s != "is" && s != "as" && s != "of"
  | .string _ | .number | .bigInt | .templateQuote => true
  | .punct s => ["(", "[", "\x7b", "<", "-"].contains s
  | _ => false

/-- A type with its prefix operators and its suffixes. -/
def operandType (g : Grammar) : Parser (List Part) := do
  let t ← peek
  let second ← peekSecond
  let isOperator :=
    ["keyof", "unique", "readonly", "infer"].any t.isWord && startsType second &&
      !second.newlineBefore
  if isOperator then
    let _ ← take
    if t.isWord "infer" then
      let inferred ← inferredType g
      extend (typeSuffix g) inferred
    else g.type
  else extend (typeSuffix g) (← primaryType g)

/-- The head of a function type: type parameters, parameters and an arrow. -/
def functionTypeHead (g : Grammar) : Parser (List Part) := do
  let generics ← typeParametersOpt g
  let ps ← parameters g
  expect "=>"
  return ps ++ generics

/-- A type without `extends` at its end. -/
def plainType (g : Grammar) : Parser (List Part) := do
  let t ← peek
  let second ← peekSecond
  if t.isWord "abstract" && second.isWord "new" then
    let _ ← take
  if (← atWord "new") && ((← peekSecond).isPunct "(" || (← peekSecond).isPunct "<") then
    let _ ← take
    let head ← functionTypeHead g
    return head ++ (← resultType g)
  let head ← if t.isPunct "(" || t.isPunct "<" then attempt (functionTypeHead g) else pure none
  match head with
  | some head => return head ++ (← resultType g)
  | none =>
    let _ ← eat "|"
    let _ ← eat "&"
    let first ← operandType g
    let more ← many do
      if (← eat "|") || (← eat "&") then
        if (← atPunct "(") || (← atPunct "<") || (← atWord "new") then return some (← g.type)
        else return some (← operandType g)
      else return none
    return first ++ more.flatten

/-- A type. -/
def type (g : Grammar) : Parser (List Part) := do
  let checked ← plainType g
  let t ← peek
  if t.isWord "extends" && !t.newlineBefore && (← get).context.allowConditionalType then
    let _ ← take
    let bound ← within ({ · with allowConditionalType := false }) (plainType g)
    expect "?"
    let whenTrue ← within ({ · with allowConditionalType := true }) g.type
    expect ":"
    let whenFalse ← within ({ · with allowConditionalType := true }) g.type
    return checked ++ bound ++ whenTrue ++ whenFalse
  else return checked

end MessageLint.Source.Parser

import MessageLint.Source.Parser.Functions

/-!
# MessageLint — parsing: operands

Literals, names, brackets, functions and classes, and what can follow such an operand: member
accesses, calls, templates and type arguments.
-/

namespace MessageLint.Source.Parser

/-- An expression with a label that holds only expressions. -/
def labelled (start : Nat) (label : Label) (es : List Expr) : Expr :=
  .other start label (es.map .expr)

/-! ## Brackets -/

/-- An item of a list, which can be spread. -/
def spreadable (g : Grammar) : Parser Expr := do
  let _ ← eat "..."
  g.assignment

/-- The arguments of a call. -/
def arguments (g : Grammar) : Parser (List Expr) := listOf "(" ")" (spreadable g)

/-- A list of values, some of which can be left out. -/
def arrayLiteral (g : Grammar) : Parser Expr := do
  let t ← peek
  let items ← listOf "[" "]" do
    if ← atPunct "," then return none else return some (← spreadable g)
  return labelled t.start .array (items.filterMap id)

/-- A method of an object, from its type parameters on, or the value after its key. -/
def propertyTail (g : Grammar) (isGenerator : Bool) : Parser (List Part) := do
  if (← atPunct "(") || (← atPunct "<") then functionTail g isGenerator
  else
    expect ":"
    let e ← g.assignment
    return [.expr e]

/-- A getter, whose result type is visited before its body. -/
def getter (g : Grammar) : Parser (List Part) := do
  let key ← propertyKey g
  within (inFunction false) do
    expect "("
    expect ")"
    let result ← resultTypeOpt g
    return key ++ result ++ (← block g)

/-- A property of an object. A name alone leaves nothing. -/
def property (g : Grammar) : Parser (List Part) := do
  if ← eat "..." then
    let e ← g.assignment
    return [.expr e]
  else if ← eat "*" then
    let key ← propertyKey g
    return key ++ (← propertyTail g true)
  else if ← eatModifier "get" then getter g
  else if ← eatModifier "set" then
    let key ← propertyKey g
    return key ++ (← functionTail g false)
  else if ← eatModifier "async" then
    let isGenerator ← eat "*"
    let key ← propertyKey g
    return key ++ (← functionTail g isGenerator)
  else
    let t ← peek
    let second ← peekSecond
    let isShorthand := t.identifier?.isSome &&
      !(second.isPunct ":" || second.isPunct "(" || second.isPunct "<")
    if isShorthand then
      let _ ← take
      defaultOpt g
    else
      let key ← propertyKey g
      return key ++ (← propertyTail g false)

/-- An object. -/
def objectLiteral (g : Grammar) : Parser Expr := do
  let t ← peek
  let properties ← listOf "\x7b" "\x7d" (property g)
  return .other t.start .object properties.flatten

/-- Expressions in parentheses. -/
def parenthesized (g : Grammar) : Parser Expr := do
  let t ← peek
  match ← listOf "(" ")" g.assignment with
  | [] => fail .emptyParentheses
  | [e] => return .paren t.start e
  | e :: more => return .paren t.start (labelled e.start .sequence (e :: more))

/-! ## Words -/

/-- `new.target` and `import.meta`, after their first word. -/
def metaProperty (start : Nat) : Parser Expr := do
  expect "."
  let _ ← anyName
  return .other start .metaProperty []

/-- `super`, which is called or accessed. -/
def superOperand (g : Grammar) : Parser Expr := do
  let t ← take
  if ← atPunct "(" then return .call t.start none (← arguments g)
  else if ← eat "[" then
    let key ← within bracketed g.expression
    expect "]"
    return labelled t.start .superMember [key]
  else
    expect "."
    let _ ← anyName
    return .other t.start .superMember []

/-- `import` used as an operand. -/
def importOperand (g : Grammar) : Parser Expr := do
  let t ← take
  if ← atPunct "(" then return .call t.start none (← arguments g)
  else metaProperty t.start

/-- An operand that begins with a word, `new` apart. -/
def wordOperand (g : Grammar) (t : Token) (s : String) : Parser Expr := do
  if t.isWord "this" then
    let _ ← take
    return .other t.start .this []
  else if t.isWord "null" || t.isWord "true" || t.isWord "false" then
    let _ ← take
    return .other t.start .literal []
  else if t.isWord "function" then
    return .other t.start .function (← functionFrom g false)
  else if t.isWord "class" then
    return .other t.start .classValue (← classFrom g false)
  else if t.isWord "super" then superOperand g
  else if t.isWord "import" then importOperand g
  else
    let second ← peekSecond
    if t.isWord "async" && second.isWord "function" && !second.newlineBefore then
      let _ ← take
      return .other t.start .function (← functionFrom g false)
    else if t.identifier?.isSome then
      let _ ← take
      return .identifier t.start s
    else fail .expressionExpected

/-- An operand with nothing after it. -/
def primary (g : Grammar) : Parser Expr := do
  let t ← peek
  match t.kind with
  | .name s _ => wordOperand g t s
  | .privateName =>
    let _ ← take
    return .other t.start .expression []
  | .number | .bigInt =>
    let _ ← take
    return .other t.start .literal []
  | .string value =>
    let _ ← take
    return .string t.start value
  | .templateQuote =>
    let (quasis, holes) ← templateBody g.expression false
    return .template t.start quasis holes
  | .punct s =>
    if s == "(" then parenthesized g
    else if s == "[" then arrayLiteral g
    else if s == "\x7b" then objectLiteral g
    else if s == "<" then g.element
    else if s == "/" || s == "/=" then
      match Literal.regExp ⟨t.here.chars.drop 1, t.start + 1⟩ with
      | .ok after =>
        takeUpTo after
        return .other t.start .literal []
      | .error e => giveUp e
    else fail .expressionExpected
  | .endOfText | .invalid _ => fail .expressionExpected

/-! ## What follows an operand -/

/-- An operand so far, and whether `?.` stands in it, so that all accesses after it are links of one
chain. -/
structure Operand where
  expr : Expr
  inChain : Bool := false

/-- Operators between two operands, or `?` of a conditional expression. -/
def isBinaryOperator (t : Token) : Bool :=
  match t.kind with
  | .name s false => ["in", "instanceof", "as", "satisfies"].contains s
  | .punct s =>
    ["==", "!=", "===", "!==", "&&", "||", "??", "&", "|", "^", "*", "/", "%", "**"].contains s
  | _ => false

/-- Can the token begin an expression? -/
def startsExpression (t : Token) : Bool :=
  match t.kind with
  | .name s escaped =>
    escaped || !Token.reservedWords.contains s ||
      ["await", "class", "delete", "false", "function", "import", "new", "null", "super", "this",
        "true", "typeof", "void"].contains s
  | .privateName | .number | .bigInt | .string _ | .templateQuote => true
  | .punct s => ["(", "[", "\x7b", "<", "/", "/=", "+", "-", "++", "--", "!", "~"].contains s
  | .endOfText | .invalid _ => false

/-- Can type arguments that are not part of a call end before this token? -/
def canFollowTypeArguments (t : Token) : Bool :=
  if ["<", ">", "+", "-"].any t.isPunct then false
  else t.newlineBefore || isBinaryOperator t || !startsExpression t

/-- A member of an operand: its object and, if the key is computed, its key. -/
def memberOf (o : Operand) (parts : List Part) : Operand :=
  let parts := Part.expr o.expr :: parts
  if o.inChain then { o with expr := .other o.expr.start .chain parts }
  else { o with expr := .member o.expr.start parts }

/-- A call of an operand. Its type arguments are visited only inside a chain. -/
def callOf (o : Operand) (types : List Part) (es : List Expr) : Operand :=
  if o.inChain then
    { o with expr := .other o.expr.start .chain (Part.expr o.expr :: es.map .expr ++ types) }
  else { o with expr := .call o.expr.start (some o.expr) es }

/-- The name after a dot. -/
def memberName : Parser Unit := do
  match (← peek).kind with
  | .privateName =>
    let _ ← take
  | _ =>
    let _ ← anyName

/-- The computed key of a member, in brackets. -/
def computedKey (g : Grammar) : Parser (List Part) := do
  expect "["
  let key ← within bracketed g.expression
  expect "]"
  return [.expr key]

/-- A template that an operand is the tag of. -/
def taggedBy (g : Grammar) (o : Operand) : Parser Operand := do
  let t ← peek
  let (quasis, holes) ← templateBody g.expression true
  return { o with expr := .tagged o.expr.start o.expr t.start quasis holes }

/-- What follows `?.`. -/
def chainLink (g : Grammar) (o : Operand) : Parser Operand := do
  let o := { o with inChain := true }
  let t ← peek
  if t.isPunct "(" then return callOf o [] (← arguments g)
  else if t.isPunct "[" then return memberOf o (← computedKey g)
  else if t.isPunct "<" then
    let types ← typeArguments g
    return callOf o types (← arguments g)
  else
    memberName
    return memberOf o []

/-- Type arguments after an operand, with the call or the template after them. -/
def generic (g : Grammar) (o : Operand) : Parser Operand := do
  let types ← typeArguments g
  let t ← peek
  if t.isPunct "(" then return callOf o types (← arguments g)
  else
    match t.kind with
    | .templateQuote => taggedBy g o
    | _ =>
      require (canFollowTypeArguments t)
      return { o with expr := .other o.expr.start .expression (Part.expr o.expr :: types) }

/-- One more access or call after an operand. -/
def subscript (g : Grammar) (o : Operand) : Parser (Option Operand) := do
  let t ← peek
  match t.kind with
  | .templateQuote => return some (← taggedBy g o)
  | .punct s =>
    if s == "." then
      let _ ← take
      memberName
      return some (memberOf o [])
    else if s == "?." then
      let _ ← take
      return some (← chainLink g o)
    else if s == "[" then return some (memberOf o (← computedKey g))
    else if s == "(" then return some (callOf o [] (← arguments g))
    else if s == "!" && !t.newlineBefore then
      let _ ← take
      return some { o with expr := labelled o.expr.start .nonNull [o.expr] }
    else if s == "<" then attempt (generic g o)
    else return none
  | _ => return none

/-- One more access to what is called by `new`, which calls nothing itself. -/
def constructorSubscript (g : Grammar) (o : Operand) : Parser (Option Operand) := do
  if (← atPunct "(") || (← atPunct "<") || (← atPunct "?.") then return none
  else subscript g o

/-- An operand after one or several `new`. -/
def newOperand (g : Grammar) : Nat → Parser Expr
  | 0 => giveUp .tooDeep
  | fuel + 1 => do
    let t ← take
    if ← atPunct "." then metaProperty t.start
    else
      let callee ← if ← atWord "new" then newOperand g fuel else primary g
      let callee ← extend (constructorSubscript g) { expr := callee }
      let types ← attempt (typeArgumentsOpt g)
      let es ← if ← atPunct "(" then arguments g else pure []
      return .other t.start .newObject
        (Part.expr callee.expr :: es.map .expr ++ types.getD [])

/-- An operand with all accesses and calls after it. -/
def operand (g : Grammar) : Parser Expr := do
  let e ← if ← atWord "new" then newOperand g (← steps) else primary g
  let o ← extend (subscript g) { expr := e }
  return o.expr

end MessageLint.Source.Parser

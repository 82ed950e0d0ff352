import MessageLint.Source.Parser.Operands

/-!
# MessageLint — parsing: expressions

Operators around operands, by strength: prefix and suffix operators, binary operators, conditional
expressions, assignments and arrow functions, commas.
-/

namespace MessageLint.Source.Parser

/-! ## Prefix and suffix operators -/

/-- The label of an expression with a prefix operator. -/
def leadingLabel? (t : Token) : Option Label :=
  match t.kind with
  | .name s false =>
    if s == "typeof" || s == "void" || s == "delete" then some .unary
    else if s == "await" then some .await
    else none
  | .punct s =>
    if s == "!" || s == "~" || s == "+" || s == "-" then some .unary
    else if s == "++" || s == "--" then some .update
    else none
  | _ => none

/-- An operand with its prefix and suffix operators. -/
def unary (g : Grammar) : Parser Expr := do
  let t ← peek
  match leadingLabel? t with
  | some label =>
    let _ ← take
    return labelled t.start label [← g.unary]
  | none =>
    let e ← operand g
    let t ← peek
    if (t.isPunct "++" || t.isPunct "--") && !t.newlineBefore then
      let _ ← take
      return labelled e.start .update [e]
    else return e

/-! ## Binary operators -/

/-- Operators that begin with an angle bracket, longer ones first. -/
def angleOperators : List String :=
  [">>>=", ">>>", ">>=", "<<=", "<<", ">>", ">=", "<=", "<", ">"]

/-- The operator at the front, angle brackets put together, and what follows it. -/
def operatorAt (t : Token) : Option (String × Remaining) :=
  match t.kind with
  | .punct s =>
    match angleOperators.find? (fun op => op.toList.isPrefixOf t.here.chars) with
    | some op => some (op, ⟨t.here.chars.drop op.length, t.here.offset + op.length⟩)
    | none => some (s, t.after)
  | .name s false => some (s, t.after)
  | _ => none

/-- What an operator after an operand does. -/
inductive Connective where
  /-- Another operand follows; `strength` says how tightly it is bound. -/
  | binary (strength : Nat)
  /-- A type follows. -/
  | typed (label : Label)

/-- How tightly an operator binds its operands. -/
def Connective.strength : Connective → Nat
  | binary n => n
  | typed _ => 7

/-- Strength from which on operators group to the right. -/
def rightGrouping : Nat := 11

/-- The meaning of an operator between operands. `in` and words after a line break can be something
else. -/
def connective? (op : String) (allowIn newlineBefore : Bool) : Option Connective :=
  if op == "??" || op == "||" then some (.binary 1)
  else if op == "&&" then some (.binary 2)
  else if op == "|" then some (.binary 3)
  else if op == "^" then some (.binary 4)
  else if op == "&" then some (.binary 5)
  else if op == "==" || op == "!=" || op == "===" || op == "!==" then some (.binary 6)
  else if op == "<" || op == ">" || op == "<=" || op == ">=" || op == "instanceof" then
    some (.binary 7)
  else if op == "in" then if allowIn then some (.binary 7) else none
  else if op == "as" then if newlineBefore then none else some (.typed .cast)
  else if op == "satisfies" then if newlineBefore then none else some (.typed .satisfies)
  else if op == "<<" || op == ">>" || op == ">>>" then some (.binary 8)
  else if op == "+" || op == "-" then some (.binary 9)
  else if op == "*" || op == "/" || op == "%" then some (.binary 10)
  else if op == "**" then some (.binary rightGrouping)
  else none

/-- A left operand that waits for its right one. -/
structure Pending where
  left : Expr
  strength : Nat

/-- Operands so far: those that wait, the innermost first, and the last one. -/
structure OperandStack where
  waiting : List Pending
  last : Expr

/-- Puts the last operand together with the waiting ones that are bound more tightly than an
operator of the given strength. -/
def fold (strength : Nat) : List Pending → Expr → OperandStack
  | [], e => ⟨[], e⟩
  | p :: ps, e =>
    if p.strength > strength || (p.strength == strength && strength != rightGrouping) then
      fold strength ps (labelled p.left.start .binary [p.left, e])
    else ⟨p :: ps, e⟩

/-- The type after `as` or `satisfies`. -/
def assertedType (g : Grammar) : Parser (List Part) := do
  if ← eatWord "const" then return [] else g.type

/-- One more operator after the operands so far, with what follows it. -/
def binaryStep (g : Grammar) (operands : OperandStack) : Parser (Option OperandStack) := do
  let s ← get
  let some (op, after) := operatorAt s.token | return none
  let some meaning := connective? op s.context.allowIn s.token.newlineBefore | return none
  takeUpTo after
  let folded := fold meaning.strength operands.waiting operands.last
  match meaning with
  | .binary strength =>
    let e ← unary g
    return some ⟨⟨folded.last, strength⟩ :: folded.waiting, e⟩
  | .typed label =>
    let type ← assertedType g
    return some { folded with
      last := .other folded.last.start label (Part.expr folded.last :: type) }

/-- Operands with binary operators between them. -/
def binary (g : Grammar) : Parser Expr := do
  let first ← unary g
  let operands ← extend (binaryStep g) ⟨[], first⟩
  return (fold 0 operands.waiting operands.last).last

/-! ## Conditional expressions and assignments -/

/-- A conditional expression. -/
def conditional (g : Grammar) : Parser Expr := do
  let test ← binary g
  if ← eat "?" then
    let whenTrue ← within ({ · with beforeColon := true, allowIn := true }) g.assignment
    expect ":"
    let whenFalse ← g.assignment
    return labelled test.start .conditional [test, whenTrue, whenFalse]
  else return test

/-- Operators that assign. -/
def assignmentOperators : List String :=
  ["=", "+=", "-=", "*=", "/=", "%=", "**=", "<<=", ">>=", ">>>=", "&=", "|=", "^=", "&&=", "||=",
    "??="]

/-- Is the expression an array or an object, which left of `=` is a pattern? -/
def isPatternLike : Expr → Bool
  | .other _ .array _ | .other _ .object _ => true
  | _ => false

/-- A conditional expression, or an assignment. What turns out to be a pattern is parsed again as
one. -/
def plainAssignment (g : Grammar) : Parser Expr := do
  let before ← get
  let left ← conditional g
  let some (op, after) := operatorAt (← peek) | return left
  if assignmentOperators.contains op then
    if op == "=" && isPatternLike left then
      set before
      let targets ← within bracketed g.target
      expect "="
      let value ← g.assignment
      return .other left.start .assignment (targets ++ [.expr value])
    else
      takeUpTo after
      let value ← g.assignment
      return .other left.start .assignment (left.asTarget ++ [.expr value])
  else return left

/-! ## Functions -/

/-- The head of an arrow function: what stands in it before and after the body. -/
structure ArrowHead where
  parameters : List Part := []
  types : List Part := []

/-- The arrow, which stands on the line of the parameters. -/
def arrow : Parser Unit := do
  require (!(← peek).newlineBefore)
  expect "=>"

/-- The head of an arrow function with parentheses; its result type, too, if it may have one. -/
def arrowHead (g : Grammar) (mayHaveType : Bool) : Parser ArrowHead := do
  let generics ← typeParametersOpt g
  let ps ← parameters g
  let result ← if mayHaveType then resultTypeOpt g else pure []
  arrow
  return { parameters := ps, types := generics ++ result }

/-- The head of an arrow function whose parameter is a name. -/
def shortArrowHead : Parser ArrowHead := do
  let _ ← bindingName
  arrow
  return {}

/-- An arrow function after its head. -/
def arrowTail (g : Grammar) (start : Nat) (head : ArrowHead) : Parser Expr := do
  let body ← within ({ · with inGenerator := false }) <| do
    if ← atPunct "\x7b" then block g
    else
      let e ← g.assignment
      return [.expr e]
  return .other start .arrow (head.parameters ++ body ++ head.types)

/-- The head of an arrow function, if one begins here. -/
def arrowHead? (g : Grammar) (mayHaveType : Bool) : Parser (Option ArrowHead) := do
  let t ← peek
  let second ← peekSecond
  if t.isPunct "(" || t.isPunct "<" then attempt (arrowHead g mayHaveType)
  else if t.isWord "async" && !second.newlineBefore &&
      (second.isPunct "(" || second.isPunct "<") then
    attempt do
      let _ ← take
      arrowHead g mayHaveType
  else if t.isWord "async" && !second.newlineBefore && second.identifier?.isSome then
    attempt do
      let _ ← take
      shortArrowHead
  else if second.isPunct "=>" then attempt shortArrowHead
  else return none

/-- An arrow function, if one begins here. Before the colon of a conditional expression a function
has a result type only if that colon still follows it. -/
def arrowFunction? (g : Grammar) : Parser (Option Expr) := do
  let t ← peek
  let beforeColon := (← get).context.beforeColon
  match ← arrowHead? g !beforeColon with
  | some head => return some (← arrowTail g t.start head)
  | none =>
    if beforeColon then
      let typed ← attempt do
        let some head ← arrowHead? g true | return none
        let e ← arrowTail g t.start head
        require (← atPunct ":")
        return some e
      return typed.join
    else return none

/-- An arrow function with type parameters. -/
def genericArrow (g : Grammar) : Parser Expr := do
  let some e ← arrowFunction? g | fail .expressionExpected
  return e

/-- Can the token not begin what is yielded? -/
def endsYield (t : Token) : Bool :=
  t.isEnd || t.newlineBefore || t.isWord "in" || t.isWord "of" ||
    [")", "]", "\x7d", ":", ";", ","].any t.isPunct

/-- `yield` in a generator. -/
def yieldExpression (g : Grammar) : Parser Expr := do
  let t ← take
  if endsYield (← peek) then return .other t.start .yield []
  else
    let _ ← eat "*"
    return labelled t.start .yield [← g.assignment]

/-- An expression without commas outside brackets. After an angle bracket an element is tried
before an arrow function with type parameters. -/
def assignment (g : Grammar) : Parser Expr := do
  let t ← peek
  if t.isWord "yield" && (← get).context.inGenerator then yieldExpression g
  else if t.isPunct "<" then orElse (plainAssignment g) (genericArrow g)
  else
    match ← arrowFunction? g with
    | some e => return e
    | none => plainAssignment g

/-- An expression in which commas separate further ones. -/
def expression (g : Grammar) : Parser Expr := do
  let first ← assignment g
  let more ← many do
    if ← eat "," then return some (← g.assignment) else return none
  if more.isEmpty then return first
  else return labelled first.start .sequence (first :: more)

end MessageLint.Source.Parser

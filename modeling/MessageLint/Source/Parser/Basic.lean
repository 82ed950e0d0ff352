import MessageLint.Source.Outline
import MessageLint.Source.Token

/-!
# MessageLint — parsing: state and building blocks

A parser takes tokens off a text and either yields something or names the first fault. The
constructs of the language contain one another, so each parser is written against a `Grammar`: the
parsers for the constructs one level further down.
-/

namespace MessageLint.Source

/-- What the surroundings of a construct allow. -/
structure Context where
  /-- Inside a generator, `yield` is an operator. -/
  inGenerator : Bool := false
  /-- Between `?` and `:` of a conditional expression, a colon after parentheses need not begin the
  result type of an arrow function. -/
  beforeColon : Bool := false
  /-- May `in` be an operator? Not in the head of a loop. -/
  allowIn : Bool := true
  /-- May `extends` begin a conditional type? -/
  allowConditionalType : Bool := true
deriving DecidableEq, Repr

/-- Where a parser is in the text. -/
structure State where
  /-- The text after the last token taken. -/
  rest : Remaining
  /-- The next token. -/
  token : Token
  context : Context := {}
  /-- Comments before the tokens taken, the last one first. -/
  comments : List RawComment := []

/-- The state at the start of a text. -/
def State.ofRemaining (r : Remaining) : State := { rest := r, token := Token.next r }

/-- Why a parser gave up, and how far it had come. -/
structure Failure where
  reason : ParseError
  state : State

/-- A parser of something. -/
abbrev Parser (α : Type) : Type := StateT State (Except Failure) α

namespace Parser

/-- The next token. -/
def peek : Parser Token := do return (← get).token

/-- The token after the next one. -/
def peekSecond : Parser Token := do return Token.next (← get).token.after

/-- Gives up. -/
def giveUp {α : Type} (e : ParseError) : Parser α := fun s => .error ⟨e, s⟩

/-- Gives up at the next token. One that no program can hold is a better reason than any other. -/
def fail {α : Type} (e : ParseError) : Parser α := do
  match (← get).token.kind with
  | .invalid reason => giveUp reason
  | _ => giveUp e

/-- Goes on at another place; comments before the next token taken count from there. -/
def resume (r : Remaining) : Parser Unit :=
  modify fun s => { s with rest := r, token := Token.next r }

/-- Counts the comments before the next token as passed. -/
def takeComments : Parser Unit :=
  modify fun s => { s with comments := s.token.comments.reverse ++ s.comments }

/-- Takes the next token, and goes on at the given place after it. -/
def takeUpTo (r : Remaining) : Parser Unit := do
  takeComments
  resume r

/-- Takes the next token. -/
def take : Parser Token := do
  let t ← peek
  takeUpTo t.after
  return t

/-- Is the next token this operator or bracket? -/
def atPunct (s : String) : Parser Bool := do return (← peek).isPunct s

/-- Is the next token this word? -/
def atWord (s : String) : Parser Bool := do return (← peek).isWord s

/-- Takes the next token if it is this operator or bracket. -/
def eat (s : String) : Parser Bool := do
  if ← atPunct s then
    let _ ← take
    return true
  else return false

/-- Takes the next token if it is this word. -/
def eatWord (s : String) : Parser Bool := do
  if ← atWord s then
    let _ ← take
    return true
  else return false

/-- Gives up because a certain token should stand here. -/
def failExpected {α : Type} (wanted : String) : Parser α := do
  fail (.expected wanted (← peek).describe)

/-- Takes this operator or bracket. -/
def expect (s : String) : Parser Unit := do
  if !(← eat s) then failExpected s

/-- Takes this word. -/
def expectWord (s : String) : Parser Unit := do
  if !(← eatWord s) then failExpected s

/-- Runs a parser in changed surroundings. -/
def within {α : Type} (change : Context → Context) (p : Parser α) : Parser α := do
  let saved := (← get).context
  modify fun s => { s with context := change s.context }
  let x ← p
  modify fun s => { s with context := saved }
  return x

/-- Surroundings inside brackets of any kind. -/
def bracketed (c : Context) : Context := { c with beforeColon := false, allowIn := true }

/-- Tries a parser; if it fails, nothing has been taken. -/
def attempt {α : Type} (p : Parser α) : Parser (Option α) := fun s =>
  match p s with
  | .ok (x, s') => .ok (some x, s')
  | .error _ => .ok (none, s)

/-- Tries a parser; if it fails, what it had taken by then is gone. -/
def salvage {α : Type} (p : Parser α) : Parser (Except ParseError α) := fun s =>
  match p s with
  | .ok (x, s') => .ok (.ok x, s')
  | .error e => .ok (.error e.reason, { e.state with context := s.context })

/-- Does a parser succeed here? Nothing is taken. -/
def succeeds {α : Type} (p : Parser α) : Parser Bool := fun s =>
  match p s with
  | .ok _ => .ok (true, s)
  | .error _ => .ok (false, s)

/-- Tries two parsers in turn; if both fail, the fault is that of the first, and nothing has been
taken. -/
def orElse {α : Type} (first second : Parser α) : Parser α := fun s =>
  match first s with
  | .ok result => .ok result
  | .error e =>
    match second s with
    | .ok result => .ok result
    | .error _ => .error ⟨e.reason, s⟩

/-- Gives up unless a condition holds. -/
def require (condition : Bool) : Parser Unit := do
  if !condition then fail .expressionExpected

/-- A number of steps that no loop over the tokens left can exceed. -/
def steps : Parser Nat := do return (← get).rest.chars.length + 1

/-- Repeats a step that yields something until it yields nothing. -/
def loop {α : Type} (step : Parser (Option α)) : Nat → Parser (List α)
  | 0 => giveUp .tooDeep
  | fuel + 1 => do
    match ← step with
    | none => return []
    | some x => return x :: (← loop step fuel)

/-- Repeats a step until it yields nothing. -/
def many {α : Type} (step : Parser (Option α)) : Parser (List α) := do
  loop step (← steps)

/-- Repeats a step on a value until it yields nothing more. -/
def iterate {α : Type} (step : α → Parser (Option α)) : Nat → α → Parser α
  | 0, _ => giveUp .tooDeep
  | fuel + 1, x => do
    match ← step x with
    | none => return x
    | some y => iterate step fuel y

/-- Repeats a step on a value until it yields nothing more. -/
def extend {α : Type} (step : α → Parser (Option α)) (x : α) : Parser α := do
  iterate step (← steps) x

/-- The further items of a list, each after a comma, up to the closing bracket. A comma may stand
before the bracket. -/
def itemsUntil {α : Type} (close : String) (item : Parser α) : Nat → Parser (List α)
  | 0 => giveUp .tooDeep
  | fuel + 1 => do
    if ← atPunct close then return []
    let x ← item
    if !(← atPunct close) then expect ","
    return x :: (← itemsUntil close item fuel)

/-- A list in brackets. -/
def listOf {α : Type} (opener closer : String) (item : Parser α) : Parser (List α) := do
  expect opener
  let xs ← within bracketed (do itemsUntil closer item (← steps))
  expect closer
  return xs

/-- The name at the front, keywords included. -/
def anyName : Parser String := do
  match (← peek).word? with
  | some s =>
    let _ ← take
    return s
  | none => fail .nameExpected

/-- The name of something declared. -/
def bindingName : Parser String := do
  match (← peek).identifier? with
  | some s =>
    let _ ← take
    return s
  | none => fail .nameExpected

/-- Can a statement end here without a semicolon? -/
def atStatementEnd : Parser Bool := do
  let t ← peek
  return t.isPunct ";" || t.isPunct "\x7d" || t.isEnd || t.newlineBefore

/-- Takes the end of a statement, if it is here. -/
def eatStatementEnd : Parser Bool := do
  if ← atStatementEnd then
    let _ ← eat ";"
    return true
  else return false

/-- The end of a statement. -/
def statementEnd : Parser Unit := do
  if !(← eatStatementEnd) then fail .endOfStatementExpected

end Parser

/-- The parsers for constructs that can stand inside others. -/
structure Grammar where
  /-- An expression in which commas separate further ones. -/
  expression : Parser Expr
  /-- An expression without commas outside brackets. -/
  assignment : Parser Expr
  /-- An operand of a binary operator. -/
  unary : Parser Expr
  /-- A type. -/
  type : Parser (List Part)
  /-- A name or a pattern of names to be declared, without a default value. -/
  binding : Parser (List Part)
  /-- A pattern of targets that values are assigned to. -/
  target : Parser (List Part)
  /-- A statement or declaration. -/
  statement : Parser (List Part)
  /-- An element or fragment, from its opening angle bracket on. -/
  element : Parser Expr

/-- The grammar of what is nested too deeply. -/
def Grammar.bottom : Grammar where
  expression := Parser.giveUp .tooDeep
  assignment := Parser.giveUp .tooDeep
  unary := Parser.giveUp .tooDeep
  type := Parser.giveUp .tooDeep
  binding := Parser.giveUp .tooDeep
  target := Parser.giveUp .tooDeep
  statement := Parser.giveUp .tooDeep
  element := Parser.giveUp .tooDeep

end MessageLint.Source

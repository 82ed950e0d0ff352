import MessageLint.Source.Parser.Elements

/-!
# MessageLint — parsing: statements

Statements and declarations leave what they hold, in the order in which it is visited.
-/

namespace MessageLint.Source.Parser

/-- An expression as the only part. -/
def expressionPart (g : Grammar) : Parser (List Part) := do
  let e ← g.expression
  return [.expr e]

/-- An expression in parentheses, as in the head of a statement. -/
def parenthesizedHead (g : Grammar) : Parser (List Part) := do
  expect "("
  let parts ← within bracketed (expressionPart g)
  expect ")"
  return parts

/-! ## Variables -/

/-- A declared variable: its pattern, its type and its value. -/
def declarator (g : Grammar) : Parser (List Part) := do
  let bound ← g.binding
  let _ ← eat "!"
  let type ← typeAnnotationOpt g
  let value ← if ← eat "=" then
      let e ← g.assignment
      pure [Part.expr e]
    else pure []
  return bound ++ type ++ value

/-- Declared variables, after the word that begins the declaration. -/
def declarators (g : Grammar) : Parser (List Part) := do
  let first ← declarator g
  let more ← many do
    if ← eat "," then return some (← declarator g) else return none
  return first ++ more.flatten

/-- Takes tokens up to the end of the statement. -/
def skipStatement : Parser Unit := do
  let _ ← many do
    if ← eatStatementEnd then return none
    let _ ← take
    return some ()

/-- A declaration of variables. What follows one without an end is passed over. -/
def variableStatement (g : Grammar) : Parser (List Part) := do
  let parts ← declarators g
  if !(← eatStatementEnd) then
    let _ ← attempt g.expression
    skipStatement
  return parts

/-- Does a declaration of variables begin here? `let` can also be a name. -/
def atVariables : Parser Bool := do
  let t ← peek
  let second ← peekSecond
  if t.isWord "var" then return true
  else if t.isWord "const" then return !second.isWord "enum"
  else if t.isWord "let" then
    return second.identifier?.isSome || second.isPunct "[" || second.isPunct "\x7b"
  else return t.isWord "using" && second.identifier?.isSome && !second.newlineBefore &&
    !second.isWord "of"

/-- Takes `await` before a declaration of variables that are let go asynchronously. -/
def eatAwaitUsing : Parser Unit := do
  let before ← get
  if (← atWord "await") && (← peekSecond).isWord "using" then
    let _ ← take
    if !(← atVariables) then set before

/-! ## Loops -/

/-- What a loop over values goes through, after `of` or `in`. -/
def iterated (g : Grammar) : Parser (Option (List Part)) := do
  if ← eatWord "of" then
    let e ← g.assignment
    return some [.expr e]
  else if ← eatWord "in" then return some (← expressionPart g)
  else return none

/-- The test and the update of a counting loop, from the first semicolon on. -/
def countingHead (g : Grammar) : Parser (List Part) := do
  expect ";"
  let test ← if ← atPunct ";" then pure [] else expressionPart g
  expect ";"
  let update ← if ← atPunct ")" then pure [] else expressionPart g
  return test ++ update

/-- The head of a loop that begins with an expression, which can be the target of a loop over
values. -/
def expressionLoopHead (g : Grammar) : Parser (List Part) := do
  let before ← get
  let start ← within ({ · with allowIn := false }) g.expression
  if (← atWord "of") || (← atWord "in") then
    let targets ← if isPatternLike start then do
        set before
        g.target
      else pure start.asTarget
    return targets ++ ((← iterated g).getD [])
  else return .expr start :: (← countingHead g)

/-- The head of a loop, between its parentheses. -/
def loopHead (g : Grammar) : Parser (List Part) := do
  eatAwaitUsing
  if ← atPunct ";" then countingHead g
  else if ← atVariables then
    let _ ← take
    let start ← within ({ · with allowIn := false }) (declarators g)
    match ← iterated g with
    | some parts => return start ++ parts
    | none => return start ++ (← countingHead g)
  else expressionLoopHead g

/-- A `for` loop. -/
def forStatement (g : Grammar) : Parser (List Part) := do
  let _ ← take
  let _ ← eatWord "await"
  expect "("
  let head ← within bracketed (loopHead g)
  expect ")"
  return head ++ (← g.statement)

/-- A loop with its test at the end, which is visited first. -/
def doStatement (g : Grammar) : Parser (List Part) := do
  let _ ← take
  let body ← g.statement
  expectWord "while"
  let test ← parenthesizedHead g
  let _ ← eat ";"
  return test ++ body

/-! ## Branches -/

/-- An `if` statement. -/
def ifStatement (g : Grammar) : Parser (List Part) := do
  let _ ← take
  let test ← parenthesizedHead g
  let whenTrue ← g.statement
  let whenFalse ← if ← eatWord "else" then g.statement else pure []
  return test ++ whenTrue ++ whenFalse

/-- The statements of a case. -/
def caseBody (g : Grammar) : Parser (List Part) := do
  let parts ← many do
    let t ← peek
    if t.isPunct "\x7d" || t.isEnd || t.isWord "case" || t.isWord "default" then return none
    return some (← g.statement)
  return parts.flatten

/-- A case of a `switch` statement. -/
def switchCase (g : Grammar) : Parser (List Part) := do
  let test ← if ← eatWord "case" then expressionPart g
    else do
      expectWord "default"
      pure []
  expect ":"
  return test ++ (← caseBody g)

/-- A `switch` statement. -/
def switchStatement (g : Grammar) : Parser (List Part) := do
  let _ ← take
  let value ← parenthesizedHead g
  expect "\x7b"
  let cases ← within bracketed <| many do
    if ← atPunct "\x7d" then return none else return some (← switchCase g)
  expect "\x7d"
  return value ++ cases.flatten

/-- A `try` statement. -/
def tryStatement (g : Grammar) : Parser (List Part) := do
  let _ ← take
  let body ← block g
  let handler ← if ← eatWord "catch" then do
      let caught ← if ← eat "(" then do
          let bound ← g.binding
          let type ← typeAnnotationOpt g
          expect ")"
          pure (bound ++ type)
        else pure []
      pure (caught ++ (← block g))
    else pure []
  let final ← if ← eatWord "finally" then block g else pure []
  return body ++ handler ++ final

/-! ## Simple statements -/

/-- A statement with an expression after its first word, which can be left out. -/
def valueStatement (g : Grammar) : Parser (List Part) := do
  let _ ← take
  let value ← if ← atStatementEnd then pure [] else expressionPart g
  statementEnd
  return value

/-- A statement with a label after its first word, which can be left out. -/
def jumpStatement : Parser (List Part) := do
  let _ ← take
  if !(← atStatementEnd) then
    let _ ← bindingName
  statementEnd
  return []

/-- An expression as a statement. -/
def expressionStatement (g : Grammar) : Parser (List Part) := do
  let parts ← expressionPart g
  statementEnd
  return parts

/-- A statement that begins with a keyword, if it does. -/
def keywordStatement? (g : Grammar) : Parser (Option (List Part)) := do
  eatAwaitUsing
  let t ← peek
  let second ← peekSecond
  if ← atVariables then
    let _ ← take
    return some (← variableStatement g)
  else if t.isWord "function" then return some (← functionFrom g true)
  else if t.isWord "async" && second.isWord "function" && !second.newlineBefore then
    let _ ← take
    return some (← functionFrom g true)
  else if t.isWord "class" then return some (← classFrom g true)
  else if t.isWord "if" then return some (← ifStatement g)
  else if t.isWord "for" then return some (← forStatement g)
  else if t.isWord "while" || t.isWord "with" then
    let _ ← take
    let head ← parenthesizedHead g
    return some (head ++ (← g.statement))
  else if t.isWord "do" then return some (← doStatement g)
  else if t.isWord "switch" then return some (← switchStatement g)
  else if t.isWord "try" then return some (← tryStatement g)
  else if t.isWord "return" || t.isWord "throw" then return some (← valueStatement g)
  else if t.isWord "break" || t.isWord "continue" || t.isWord "debugger" then
    return some (← jumpStatement)
  else return none

end MessageLint.Source.Parser

import MessageLint.Source.Parser.Types

/-!
# MessageLint — parsing: patterns

Patterns take values apart. Those in declarations have names as leaves, those in assignments any
target; the brackets around the leaves are the same. A pattern leaves its computed and quoted keys
and its default values.
-/

namespace MessageLint.Source.Parser

/-- The key of a property. Only computed and quoted keys leave something. -/
def propertyKey (g : Grammar) : Parser (List Part) := do
  let t ← peek
  match t.kind with
  | .name _ _ | .number | .bigInt | .privateName =>
    let _ ← take
    return []
  | .string value =>
    let _ ← take
    return [.expr (.string t.start value)]
  | _ =>
    if ← eat "[" then
      let e ← within bracketed g.assignment
      expect "]"
      return [.expr e]
    else
      fail (.unexpected t.describe
        "identifier, string literal, numeric literal or [ for the computed key")

/-- The default value of a leaf, if it has one. -/
def defaultOpt (g : Grammar) : Parser (List Part) := do
  if ← eat "=" then
    let e ← within bracketed g.assignment
    return [.expr e]
  else return []

/-- Something with the default value that may follow it. -/
def withDefault (g : Grammar) (leaf : Parser (List Part)) : Parser (List Part) := do
  let parts ← leaf
  return parts ++ (← defaultOpt g)

/-- A pattern of elements, some of which can be left out. -/
def arrayPattern (g : Grammar) (leaf : Parser (List Part)) : Parser (List Part) := do
  let elements ← listOf "[" "]" do
    if ← atPunct "," then return []
    let _ ← eat "..."
    withDefault g leaf
  return elements.flatten

/-- A property of a pattern: its key and what takes its value, or only a name for both. -/
def patternProperty (g : Grammar) (leaf : Parser (List Part)) : Parser (List Part) := do
  if ← eat "..." then leaf
  else
    let t ← peek
    let second ← peekSecond
    if t.identifier?.isSome && !second.isPunct ":" then
      let _ ← take
      defaultOpt g
    else
      let key ← propertyKey g
      expect ":"
      return key ++ (← withDefault g leaf)

/-- A pattern of properties. -/
def objectPattern (g : Grammar) (leaf : Parser (List Part)) : Parser (List Part) := do
  return (← listOf "\x7b" "\x7d" (patternProperty g leaf)).flatten

/-- A name or a pattern of names to be declared. -/
def binding (g : Grammar) : Parser (List Part) := do
  let t ← peek
  if t.identifier?.isSome then
    let _ ← take
    return []
  else if t.isPunct "[" then arrayPattern g g.binding
  else if t.isPunct "\x7b" then objectPattern g g.binding
  else fail (.unexpected t.describe "yield, an identifier, [ or \x7b")

/-- Does the token end a target? -/
def endsTarget (t : Token) : Bool :=
  t.isEnd || [",", "]", "\x7d", ")", "="].any t.isPunct || t.isWord "of" || t.isWord "in"

/-- A target inside a pattern. A plain name leaves nothing, anything else is an expression. -/
def targetLeaf (g : Grammar) : Parser (List Part) := do
  let t ← peek
  let nested ← if t.isPunct "[" || t.isPunct "\x7b" then
      attempt do
        let parts ← g.target
        require (endsTarget (← peek))
        return parts
    else pure none
  match nested with
  | some parts => return parts
  | none =>
    match ← g.unary with
    | .identifier _ _ => return []
    | e => return [.expr e]

/-- A pattern of targets that values are assigned to. -/
def target (g : Grammar) : Parser (List Part) := do
  if ← atPunct "[" then arrayPattern g (targetLeaf g)
  else objectPattern g (targetLeaf g)

end MessageLint.Source.Parser

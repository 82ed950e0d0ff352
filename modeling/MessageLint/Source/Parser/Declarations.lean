import MessageLint.Source.Parser.Statements

/-!
# MessageLint — parsing: declarations of types and modules

Type aliases, interfaces, enumerations and namespaces, and what modules import and export.
-/

namespace MessageLint.Source.Parser

/-! ## Types -/

/-- A type alias. -/
def typeAlias (g : Grammar) : Parser (List Part) := do
  let _ ← take
  let _ ← bindingName
  let generics ← typeParametersOpt g
  expect "="
  let type ← within inType g.type
  statementEnd
  return generics ++ type

/-- An interface. -/
def interfaceDeclaration (g : Grammar) : Parser (List Part) := do
  let _ ← take
  let _ ← bindingName
  let generics ← typeParametersOpt g
  let bases ← if ← eatWord "extends" then heritageList g else pure []
  return generics ++ bases ++ (← typeMembers g)

/-- A member of an enumeration. -/
def enumMember (g : Grammar) : Parser (List Part) := do
  let name ← propertyKey g
  return name ++ (← defaultOpt g)

/-- An enumeration, from the word `enum` on. -/
def enumDeclaration (g : Grammar) : Parser (List Part) := do
  expectWord "enum"
  let _ ← bindingName
  return (← listOf "\x7b" "\x7d" (enumMember g)).flatten

/-- A namespace or a module with its statements, which can be left out. -/
def namespaceDeclaration (g : Grammar) : Parser (List Part) := do
  let t ← take
  let name ← if t.isWord "global" then pure []
    else match stringPart? (← peek) with
      | some part => do
        let _ ← take
        pure [part]
      | none => do
        dottedNames
        pure []
  if ← atPunct "\x7b" then return name ++ (← block g)
  else
    statementEnd
    return name

/-- Is the word one that declares something when a name follows it on its line? -/
def declares (t second : Token) : Bool :=
  let named := second.identifier?.isSome && !second.newlineBefore
  ((t.isWord "type" || t.isWord "interface") && named) ||
    ((t.isWord "namespace" || t.isWord "module") && !second.newlineBefore &&
      (named || (stringPart? second).isSome)) ||
    (t.isWord "abstract" && second.isWord "class" && !second.newlineBefore) ||
    (t.isWord "declare" && second.word?.isSome && !second.newlineBefore &&
      !(["in", "instanceof", "as", "satisfies"].any second.isWord)) ||
    (t.isWord "global" && second.isPunct "\x7b" && !second.newlineBefore) ||
    t.isWord "enum" || (t.isWord "const" && second.isWord "enum")

/-- A declaration that `declares` has recognized. -/
def typeDeclaration (g : Grammar) : Parser (List Part) := do
  let t ← peek
  if t.isWord "type" then typeAlias g
  else if t.isWord "interface" then interfaceDeclaration g
  else if t.isWord "enum" then enumDeclaration g
  else if t.isWord "const" then
    let _ ← take
    enumDeclaration g
  else if t.isWord "abstract" then
    let _ ← take
    classFrom g true
  else if t.isWord "declare" then
    let _ ← take
    g.statement
  else namespaceDeclaration g

/-! ## Imports and exports -/

/-- A name in a list of imports or exports. Quoted names leave something. -/
def specifierName : Parser (List Part) := do
  match stringPart? (← peek) with
  | some part =>
    let _ ← take
    return [part]
  | none =>
    let _ ← anyName
    return []

/-- Is the item of a list of imports or exports at its end? -/
def atSpecifierEnd : Parser Bool := do
  let t ← peek
  return t.isPunct "," || t.isPunct "\x7d"

/-- Takes `type` where it says that a type is named. Like `as`, the word can also be a name. -/
def eatTypeWord : Parser Unit := do
  let before ← get
  if ← eatWord "type" then
    let namesType ←
      if ← eatWord "as" then
        -- the type `as`, with a name of its own or without one
        if ← eatWord "as" then pure !(← atSpecifierEnd) else atSpecifierEnd
      else pure !(← atSpecifierEnd)
    set before
    if namesType then
      let _ ← take

/-- An item of a list of imports or exports, with the name it gets. -/
def specifier : Parser (List Part) := do
  eatTypeWord
  let name ← specifierName
  let renamed ← if ← eatWord "as" then specifierName else pure []
  return name ++ renamed

/-- A list of imports or exports. -/
def specifiers : Parser (List Part) := do
  return (← listOf "\x7b" "\x7d" specifier).flatten

/-- What is said about a module after its name. -/
def importAttributes (g : Grammar) : Parser (List Part) := do
  let t ← peek
  if t.isWord "with" || (t.isWord "assert" && !t.newlineBefore) then
    let _ ← take
    match ← objectLiteral g with
    | .other _ _ parts => return parts
    | _ => return []
  else return []

/-- The name of a module and what is said about it. -/
def moduleSource (g : Grammar) : Parser (List Part) := do
  let source ← stringLiteral
  let attributes ← importAttributes g
  statementEnd
  return source ++ attributes

/-- The name of a module after `from`. -/
def fromModule (g : Grammar) : Parser (List Part) := do
  expectWord "from"
  moduleSource g

/-- Everything from a module under one name. -/
def importNamespace : Parser Unit := do
  expect "*"
  expectWord "as"
  let _ ← bindingName

/-- What an import names, between `import` and `from`. -/
def importClause : Parser (List Part) := do
  if ← atPunct "\x7b" then specifiers
  else if ← atPunct "*" then
    importNamespace
    return []
  else
    let _ ← bindingName
    if ← eat "," then
      if ← atPunct "*" then
        importNamespace
        return []
      else specifiers
    else return []

/-- A name given to a module or to a member of a namespace, from the equals sign on. -/
def importEquals : Parser (List Part) := do
  expect "="
  let parts ← if (← atWord "require") && (← peekSecond).isPunct "(" then do
      let _ ← take
      expect "("
      let source ← stringLiteral
      expect ")"
      pure source
    else do
      dottedNames
      pure []
  statementEnd
  return parts

/-- Takes the word `type` unless it is itself what is imported. -/
def eatTypeOnly : Parser Unit := do
  let second ← peekSecond
  if (← atWord "type") && (second.isPunct "\x7b" || second.isPunct "*" ||
      (second.identifier?.isSome && !second.isWord "from")) then
    let _ ← take

/-- An import. -/
def importDeclaration (g : Grammar) : Parser (List Part) := do
  let _ ← take
  if (stringPart? (← peek)).isSome then moduleSource g
  else
    eatTypeOnly
    let second ← peekSecond
    if (← peek).identifier?.isSome && second.isPunct "=" then
      let _ ← take
      importEquals
    else
      let names ← importClause
      return names ++ (← fromModule g)

/-- What a module exports by default. -/
def defaultExport (g : Grammar) : Parser (List Part) := do
  let _ ← take
  let t ← peek
  let second ← peekSecond
  if t.isWord "function" then functionFrom g false
  else if t.isWord "async" && second.isWord "function" && !second.newlineBefore then
    let _ ← take
    functionFrom g false
  else if t.isWord "class" then classFrom g false
  else if t.isWord "abstract" && second.isWord "class" then
    let _ ← take
    classFrom g false
  else if t.isWord "interface" && second.identifier?.isSome then interfaceDeclaration g
  else
    let e ← g.assignment
    statementEnd
    return [.expr e]

/-- Everything of a module, exported again. -/
def exportAll (g : Grammar) : Parser (List Part) := do
  expect "*"
  let name ← if ← eatWord "as" then specifierName else pure []
  return name ++ (← fromModule g)

/-- Listed names, exported from here or from a module. -/
def exportNamed (g : Grammar) : Parser (List Part) := do
  let names ← specifiers
  if ← atWord "from" then return names ++ (← fromModule g)
  else
    statementEnd
    return names

/-- An export. -/
def exportDeclaration (g : Grammar) : Parser (List Part) := do
  let _ ← take
  if (← atWord "type") && ((← peekSecond).isPunct "\x7b" || (← peekSecond).isPunct "*") then
    let _ ← take
  if ← atPunct "\x7b" then exportNamed g
  else if ← atPunct "*" then exportAll g
  else if ← atWord "default" then defaultExport g
  else if ← eat "=" then
    let parts ← expressionPart g
    statementEnd
    return parts
  else if (← atWord "as") && (← peekSecond).isWord "namespace" then
    let _ ← take
    let _ ← take
    let _ ← bindingName
    statementEnd
    return []
  else if ← atWord "import" then importDeclaration g
  else g.statement

/-! ## All statements -/

/-- A statement or declaration. -/
def statement (g : Grammar) : Parser (List Part) := do
  let t ← peek
  let second ← peekSecond
  if t.isPunct "\x7b" then block g
  else if ← eat ";" then return []
  else if t.isWord "import" && !second.isPunct "(" && !second.isPunct "." then
    importDeclaration g
  else if t.isWord "export" then exportDeclaration g
  else if declares t second then typeDeclaration g
  else
    match ← keywordStatement? g with
    | some parts => return parts
    | none =>
      if t.identifier?.isSome && second.isPunct ":" then
        let _ ← take
        let _ ← take
        g.statement
      else expressionStatement g

end MessageLint.Source.Parser

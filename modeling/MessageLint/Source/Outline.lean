/-!
# MessageLint — the outline of a program

What the checks need to know of a program: its expressions, with what is inside each in the order
in which it is visited. Statements, declarations and types leave only the expressions and string
literals they hold.

Places are byte offsets.
-/

namespace MessageLint.Source

/-- The kinds of expression that no check looks into. -/
inductive Label where
  | this
  | array
  | object
  | function
  | unary
  | update
  | binary
  | assignment
  | superMember
  | conditional
  | newObject
  | sequence
  | literal
  | arrow
  | classValue
  | yield
  | metaProperty
  | await
  | fragment
  | cast
  | nonNull
  | satisfies
  | chain
  | expression
deriving DecidableEq, Repr

/-- The name shown to users. -/
def Label.name : Label → String
  | this => "ThisExpression"
  | array => "ArrayExpression"
  | object => "ObjectExpression"
  | function => "FunctionExpression"
  | unary => "UnaryExpression"
  | update => "UpdateExpression"
  | binary => "BinaryExpression"
  | assignment => "AssignmentExpression"
  | superMember => "SuperMemberExpression"
  | conditional => "ConditionalExpression"
  | newObject => "NewExpression"
  | sequence => "SequenceExpression"
  | literal => "Literal"
  | arrow => "ArrowFunctionExpression"
  | classValue => "ClassExpression"
  | yield => "YieldExpression"
  | metaProperty => "MetaProperty"
  | await => "AwaitExpression"
  | fragment => "JSXFragment"
  | cast => "TSAsExpression"
  | nonNull => "TSNonNullExpression"
  | satisfies => "TSSatisfiesExpression"
  | chain => "ChainExpression"
  | expression => "Expression"

mutual

/-- An expression. -/
inductive Expr where
  | identifier (start : Nat) (name : String)
  /-- Parentheses, which show in the start of what they are part of. -/
  | paren (start : Nat) (inner : Expr)
  | string (start : Nat) (value : String)
  | template (start : Nat) (quasis : List (Option String)) (holes : List Expr)
  /-- A template with a tag; the template itself starts at `quotedAt`. -/
  | tagged (start : Nat) (tag : Expr) (quotedAt : Nat) (quasis : List (Option String))
      (holes : List Expr)
  | call (start : Nat) (callee : Option Expr) (arguments : List Expr)
  | member (start : Nat) (parts : List Part)
  | element (start : Nat) (name : Option String) (attributes : List Attribute)
      (children : List Part)
  /-- Any other expression, with a label. -/
  | other (start : Nat) (label : Label) (parts : List Part)

/-- What can stand inside an expression or the program. -/
inductive Part where
  | expr (e : Expr)
  | inlineText (start : Nat) (value : String)
  /-- Braces among the children of an element; empty ones hold no expression. -/
  | braces (start : Nat) (inner : Option Expr)

/-- An attribute of an element. -/
inductive Attribute where
  | named (start : Nat) (name : String) (value : AttributeValue)
  | spread (e : Expr)

/-- The value of an attribute. -/
inductive AttributeValue where
  | absent
  /-- A string or an element. -/
  | expr (e : Expr)
  | braces (start : Nat) (inner : Option Expr)
  /-- A fragment, which is known by what it holds. -/
  | fragment (children : List Part)

end

/-- A whole program: where it starts and what it holds. -/
structure Outline where
  start : Nat
  parts : List Part

namespace Expr

/-- Where an expression starts. -/
def start : Expr → Nat
  | identifier s _ => s
  | paren s _ => s
  | string s _ => s
  | template s _ _ => s
  | tagged s _ _ _ _ => s
  | call s _ _ => s
  | member s _ => s
  | element s _ _ _ => s
  | other s _ _ => s

/-- What an expression leaves when a value is assigned to it: a name leaves nothing, a member access
only what is inside it. -/
def asTarget : Expr → List Part
  | identifier _ _ => []
  | member _ parts => parts
  | paren _ inner => [.expr inner]
  | other start label parts =>
    match label with
    | .nonNull | .superMember | .chain => parts
    | label => [.expr (other start label parts)]
  | e => [.expr e]

end Expr

end MessageLint.Source

/-!
# MessageLint — the source tree

A program as the checks see it: an arena of nodes in which parent and child links are indices.
Only the kinds of node that some check looks at carry structure; every other expression is an
`other` node with a label.

Links are plain numbers and need not point anywhere, so every look-up is partial.
-/

namespace MessageLint

/-- Index of a node in its tree. -/
abbrev NodeId := Nat

/-- Line and column of a node's first character, both counted from 1. -/
structure Position where
  line : Nat := 0
  col : Nat := 0
deriving DecidableEq, Repr

/-- What a node is, with the links that belong to its kind. -/
inductive Payload where
  | program
  /-- A template with its static segments (`none` where an escape has no value) and the nodes of
  its interpolations. -/
  | template (quasis : List (Option String)) (expressions : List NodeId)
  | taggedTemplate (tag : Option NodeId) (quoted : Option NodeId)
  /-- A call; there is no callee node for `super(..)` and `import(..)`. -/
  | call (callee : Option NodeId) (arguments : List NodeId)
  | identifier (name : String)
  | member
  | stringLiteral (value : String)
  /-- An element; it has no name if the tag is dotted or namespaced. -/
  | jsxElement (name : Option String) (attributes : List NodeId)
  | jsxAttribute (name : String) (value : Option NodeId)
  /-- Braces around an expression; empty braces have none. -/
  | jsxContainer (expression : Option NodeId)
  | jsxText (value : String)
  | other (label : String)
deriving DecidableEq, Repr

/-- The kind of a node: its payload without the fields. -/
inductive Kind where
  | program
  | template
  | taggedTemplate
  | call
  | identifier
  | member
  | stringLiteral
  | jsxElement
  | jsxAttribute
  | jsxContainer
  | jsxText
  | other
deriving DecidableEq, Repr

namespace Kind

/-- The name shown to users. -/
def name : Kind → String
  | program => "Program"
  | template => "TemplateLiteral"
  | taggedTemplate => "TaggedTemplateExpression"
  | call => "CallExpression"
  | identifier => "Identifier"
  | member => "MemberExpression"
  | stringLiteral => "Literal"
  | jsxElement => "JSXElement"
  | jsxAttribute => "JSXAttribute"
  | jsxContainer => "JSXExpressionContainer"
  | jsxText => "JSXText"
  | other => "Other"

/-- All kinds. -/
def all : List Kind :=
  [program, template, taggedTemplate, call, identifier, member, stringLiteral, jsxElement,
    jsxAttribute, jsxContainer, jsxText, other]

/-- The kind with this name. -/
def ofName? (s : String) : Option Kind := all.find? (·.name == s)

end Kind

/-- The kind of a payload. -/
def Payload.kind : Payload → Kind
  | program => .program
  | template .. => .template
  | taggedTemplate .. => .taggedTemplate
  | call .. => .call
  | identifier .. => .identifier
  | member => .member
  | stringLiteral .. => .stringLiteral
  | jsxElement .. => .jsxElement
  | jsxAttribute .. => .jsxAttribute
  | jsxContainer .. => .jsxContainer
  | jsxText .. => .jsxText
  | other .. => .other

/-- A node: what it is, and where it hangs in the tree. -/
structure Node where
  payload : Payload
  /-- The enclosing node; none at the root. -/
  parent : Option NodeId
  /-- Direct children in source order. -/
  children : List NodeId
  position : Position
deriving DecidableEq, Repr

/-- An arena of nodes; node 0 is the root. -/
structure Tree where
  nodes : Array Node := #[]
deriving DecidableEq, Repr

namespace Tree

/-- The tree without nodes. -/
def empty : Tree := {}

/-- The number of nodes. -/
def size (t : Tree) : Nat := t.nodes.size

/-- Registers `child` as the last child of `parent`, if that node exists. -/
def addChild (t : Tree) (parent child : NodeId) : Tree :=
  { t with nodes := t.nodes.modify parent fun n => { n with children := n.children ++ [child] } }

/-- Appends a node; its id is the old size. It becomes the last child of its parent if the parent
exists once the node has been appended, so a node can be its own child. -/
def push (t : Tree) (payload : Payload) (parent : Option NodeId) (position : Position) : Tree :=
  let appended : Tree := ⟨t.nodes.push ⟨payload, parent, [], position⟩⟩
  match parent with
  | some p => appended.addChild p t.size
  | none => appended

/-- Appends a node, and yields its id with the tree. -/
def add (t : Tree) (payload : Payload) (parent : Option NodeId) (position : Position) :
    NodeId × Tree := (t.size, t.push payload parent position)

/-- Replaces the payload of a node; an id that does not exist is ignored. -/
def setPayload (t : Tree) (id : NodeId) (payload : Payload) : Tree :=
  { t with nodes := t.nodes.modify id fun n => { n with payload } }

/-- The node with this id. -/
def get? (t : Tree) (id : NodeId) : Option Node := t.nodes[id]?

/-- The payload of a node. -/
def payload? (t : Tree) (id : NodeId) : Option Payload := (t.get? id).map (·.payload)

/-- The kind of a node. -/
def kind? (t : Tree) (id : NodeId) : Option Kind := (t.payload? id).map (·.kind)

/-- The parent link of a node. -/
def parent? (t : Tree) (id : NodeId) : Option NodeId := (t.get? id).bind (·.parent)

/-- Where a node stands; a node that does not exist stands at line 0. -/
def position (t : Tree) (id : NodeId) : Position := ((t.get? id).map (·.position)).getD {}

/-- The root, if there is a node. -/
def root? (t : Tree) : Option NodeId := if t.size = 0 then none else some 0

/-- The name of an identifier node. -/
def identifierName? (t : Tree) (id : NodeId) : Option String :=
  match t.payload? id with
  | some (.identifier name) => some name
  | _ => none

end Tree

end MessageLint

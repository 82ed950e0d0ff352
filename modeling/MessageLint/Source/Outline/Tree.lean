import MessageLint.Source.Outline
import MessageLint.Text.Blank
import MessageLint.Tree.Basic

/-!
# MessageLint — from the outline of a program to its tree

A visit goes through the outline in order and keeps a stack of open nodes. A new node hangs below
the innermost open one and is numbered before what is inside it. Hence the first node that is added
while a part is visited is the node of that part, and this is how the links of a node are found; its
payload is settled when it is closed.
-/

namespace MessageLint.Source

/-- Where an inline text is said to stand: at its first character that is not blank, as far as
decoded characters are as long as written ones. -/
def textStart (start : Nat) (value : String) : Nat :=
  let cs := value.toList
  if cs.all Text.isBlank then start
  else start + (String.ofList (cs.takeWhile Text.isBlank)).utf8ByteSize

/-- A tree in the making. -/
structure Builder where
  tree : Tree := .empty
  /-- The nodes that are open, the innermost first. -/
  opened : List NodeId := []
deriving DecidableEq, Repr

namespace Builder

/-- Adds a node that nothing is inside of. -/
def leaf (b : Builder) (payload : Payload) (position : Position) : Builder :=
  { b with tree := (b.tree.add payload b.opened.head? position).2 }

/-- Adds a node and opens it; also yields its id. -/
def openNode (b : Builder) (payload : Payload) (position : Position) : NodeId × Builder :=
  let (id, tree) := b.tree.add payload b.opened.head? position
  (id, ⟨tree, id :: b.opened⟩)

/-- Settles the payload of a node, and closes the innermost open one. -/
def closeNode (b : Builder) (id : NodeId) (payload : Payload) : Builder :=
  ⟨b.tree.setPayload id payload, b.opened.tail⟩

/-- Adds a node with what `inside` adds while it is open; `inside` also settles its payload. -/
def within (b : Builder) (opening : Payload) (position : Position)
    (inside : Builder → Builder × Payload) : Builder :=
  let (id, opened) := b.openNode opening position
  let (visited, payload) := inside opened
  visited.closeNode id payload

/-- Visits something, and yields the first node that is added meanwhile, if any is. -/
def capture (b : Builder) (visit : Builder → Builder) : Builder × Option NodeId :=
  let visited := visit b
  (visited, if b.tree.size < visited.tree.size then some b.tree.size else none)

/-- Adds a template, with the nodes of its interpolations. -/
def template (b : Builder) (quasis : List (Option String)) (position : Position)
    (holes : Builder → Builder × List NodeId) : Builder :=
  b.within (.template [] []) position fun b =>
    let (b, ids) := holes b
    (b, .template quasis ids)

/-- Adds braces, with the node of what they hold. -/
def braces (b : Builder) (position : Position) (inner : Builder → Builder × Option NodeId) :
    Builder :=
  b.within (.jsxContainer none) position fun b =>
    let (b, id) := inner b
    (b, .jsxContainer id)

end Builder

mutual

/-- Visits an expression. Parentheses leave nothing in the tree. -/
def visitExpr (locate : Nat → Position) : Expr → Builder → Builder
  | .identifier start name, b => b.leaf (.identifier name) (locate start)
  | .paren _ inner, b => visitExpr locate inner b
  | .string start value, b => b.leaf (.stringLiteral value) (locate start)
  | .template start quasis holes, b =>
    b.template quasis (locate start) (captureExprs locate holes)
  | .tagged start tag quotedAt quasis holes, b =>
    b.within (.taggedTemplate none none) (locate start) fun b =>
      let (b, tagId) := b.capture (visitExpr locate tag)
      let (b, quotedId) := b.capture fun b =>
        b.template quasis (locate quotedAt) (captureExprs locate holes)
      (b, .taggedTemplate tagId quotedId)
  | .call start callee es, b =>
    b.within (.call none []) (locate start) fun b =>
      let (b, calleeId) := captureExpr? locate callee b
      let (b, ids) := captureExprs locate es b
      (b, .call calleeId ids)
  | .member start parts, b =>
    b.within .member (locate start) fun b => (visitParts locate parts b, .member)
  | .element start name attributes children, b =>
    b.within (.jsxElement name []) (locate start) fun b =>
      let (b, ids) := captureAttributes locate attributes b
      (visitParts locate children b, .jsxElement name ids)
  | .other start label parts, b =>
    b.within (.other label.name) (locate start) fun b =>
      (visitParts locate parts b, .other label.name)

/-- Visits an expression if there is one, and yields its node. -/
def captureExpr? (locate : Nat → Position) : Option Expr → Builder → Builder × Option NodeId
  | none, b => (b, none)
  | some e, b => b.capture (visitExpr locate e)

/-- Visits expressions, and yields their nodes. -/
def captureExprs (locate : Nat → Position) : List Expr → Builder → Builder × List NodeId
  | [], b => (b, [])
  | e :: es, b =>
    let (b, id) := b.capture (visitExpr locate e)
    let (b, ids) := captureExprs locate es b
    (b, id.toList ++ ids)

/-- Visits a part. -/
def visitPart (locate : Nat → Position) : Part → Builder → Builder
  | .expr e, b => visitExpr locate e b
  | .inlineText start value, b => b.leaf (.jsxText value) (locate (textStart start value))
  | .braces start inner, b => b.braces (locate start) (captureExpr? locate inner)

/-- Visits parts one after the other. -/
def visitParts (locate : Nat → Position) : List Part → Builder → Builder
  | [], b => b
  | p :: ps, b => visitParts locate ps (visitPart locate p b)

/-- Visits attributes, and yields the nodes of the named ones. -/
def captureAttributes (locate : Nat → Position) :
    List Attribute → Builder → Builder × List NodeId
  | [], b => (b, [])
  | .spread e :: rest, b => captureAttributes locate rest (visitExpr locate e b)
  | .named start name value :: rest, b =>
    let (b, id) := b.capture fun b =>
      b.within (.jsxAttribute name none) (locate start) fun b =>
        let (b, valueId) := captureValue locate value b
        (b, .jsxAttribute name valueId)
    let (b, ids) := captureAttributes locate rest b
    (b, id.toList ++ ids)

/-- Visits the value of an attribute, and yields its node. A fragment has none of its own. -/
def captureValue (locate : Nat → Position) :
    AttributeValue → Builder → Builder × Option NodeId
  | .absent, b => (b, none)
  | .expr e, b => b.capture (visitExpr locate e)
  | .braces start inner, b => b.capture fun b => b.braces (locate start) (captureExpr? locate inner)
  | .fragment children, b => (visitParts locate children b, none)

end

/-- Visits a whole program. -/
def Outline.build (locate : Nat → Position) (o : Outline) : Builder :=
  ({} : Builder).within .program (locate o.start) fun b => (visitParts locate o.parts b, .program)

/-- The tree of a program. -/
def Outline.toTree (locate : Nat → Position) (o : Outline) : Tree := (o.build locate).tree

end MessageLint.Source

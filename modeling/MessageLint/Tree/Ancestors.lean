import MessageLint.Tree.Basic

/-!
# MessageLint — enclosing nodes

Following parent links outward. A link that points nowhere ends the chain. Parent links can form a
cycle, so the chain is cut after as many steps as the tree has nodes.
-/

namespace MessageLint.Tree

/-- At most `limit` nodes of the parent chain that begins with the link `next`. -/
def chainFrom (t : Tree) : Nat → Option NodeId → List NodeId
  | 0, _ => []
  | _ + 1, none => []
  | limit + 1, some id =>
    match t.get? id with
    | none => []
    | some node => id :: t.chainFrom limit node.parent

/-- The enclosing nodes of a node, nearest first. -/
def ancestors (t : Tree) (id : NodeId) : List NodeId := t.chainFrom t.size (t.parent? id)

/-- The nearest enclosing node of a kind. -/
def nearestOfKind? (t : Tree) (id : NodeId) (kind : Kind) : Option NodeId :=
  (t.ancestors id).find? fun ancestor => t.kind? ancestor == some kind

/-- The tag name of an element node. -/
def elementName? (t : Tree) (id : NodeId) : Option String :=
  match t.payload? id with
  | some (.jsxElement name _) => name
  | _ => none

/-- Is the node inside an element with this tag name? -/
def isInside (t : Tree) (id : NodeId) (name : String) : Bool :=
  (t.ancestors id).any fun ancestor => t.elementName? ancestor == some name

end MessageLint.Tree

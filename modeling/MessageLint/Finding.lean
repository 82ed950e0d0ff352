import MessageLint.Rule
import MessageLint.Tree.Basic

/-!
# MessageLint — findings

What a rule found at a node of one file.
-/

namespace MessageLint

/-- What a rule found, with the data its message needs. -/
inductive Fault where
  | disallowedExpression
  | unlocalizedAttribute (tag name text : String)
  | unlocalizedText (text : String)
deriving DecidableEq, Repr

/-- The message about a disallowed expression. -/
def disallowedExpressionMessage : String :=
  "Should be $\x7bvariable\x7d, not $\x7bobject.property\x7d or $\x7bmy_function()\x7d"

/-- The rule a fault belongs to. -/
def Fault.rule : Fault → Rule
  | disallowedExpression => .messageExpression
  | unlocalizedAttribute .. => .unlocalizedAttribute
  | unlocalizedText .. => .unlocalizedText

/-- The message shown to users. -/
def Fault.message : Fault → String
  | disallowedExpression => disallowedExpressionMessage
  | unlocalizedAttribute _ _ text => text
  | unlocalizedText text => text

/-- A fault at a node. -/
structure Finding where
  node : NodeId
  position : Position
  fault : Fault
deriving DecidableEq, Repr

/-- A fault at a node, with the node's position. -/
def Tree.report (t : Tree) (node : NodeId) (fault : Fault) : Finding :=
  ⟨node, t.position node, fault⟩

end MessageLint

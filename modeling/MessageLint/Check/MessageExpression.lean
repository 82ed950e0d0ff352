import MessageLint.Finding
import MessageLint.Tree.Markup
import MessageLint.Tree.Walk

/-!
# MessageLint — expressions in message templates

Inside a message template every interpolation must be a plain variable or a plural or select call;
anything else would leave the extracted message with a placeholder that means nothing.
-/

namespace MessageLint.Check

/-- How one interpolation is treated. -/
inductive ExpressionClass where
  | variable
  | choiceCall
  | forbidden
deriving DecidableEq, Repr

/-- The class of an interpolation; the arguments of a choice call are not looked at. -/
def classifyExpression (t : Tree) (id : NodeId) : ExpressionClass :=
  match t.payload? id with
  | some (.identifier _) => .variable
  | some (.call ..) => if t.isChoiceCall id then .choiceCall else .forbidden
  | _ => .forbidden

/-- The verdict on one template. -/
inductive Verdict where
  /-- Every interpolation is allowed. -/
  | clean
  /-- Some interpolation is forbidden, but the template is no part of a message. -/
  | notAMessage
  | violation
deriving DecidableEq, Repr

/-- The verdict on a template. Only the nearest enclosing tagged template decides whether it is a
message. -/
def decideTemplate (t : Tree) (id : NodeId) : Verdict :=
  match t.payload? id with
  | some (.template _ expressions) =>
    if expressions.any fun e => classifyExpression t e == .forbidden then
      match t.nearestOfKind? id .taggedTemplate with
      | some tagged => if t.isMessageTemplate tagged then .violation else .notAMessage
      | none => .notAMessage
    else .clean
  | _ => .clean

/-- Reports each template in violation once, when the pass leaves it. -/
def messageExpression (t : Tree) : Visitor Finding where
  subscriptions := [(.template, .exit)]
  respond _ id :=
    if decideTemplate t id = .violation then [t.report id .disallowedExpression] else []

end MessageLint.Check

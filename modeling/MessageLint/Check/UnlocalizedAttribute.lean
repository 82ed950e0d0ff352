import MessageLint.Finding
import MessageLint.Text.Alphabetic
import MessageLint.Tree.LiteralText
import MessageLint.Tree.Markup
import MessageLint.Tree.Walk

/-!
# MessageLint — attributes that users see

String attributes whose text reaches users: a few on HTML elements, and all on components that are
not messages themselves.
-/

namespace MessageLint.Check

/-- The literal that carries the text of an attribute value: a string, or a string or a template
without interpolations in braces. -/
def attributeLiteral? (t : Tree) (value : NodeId) : Option NodeId :=
  match t.payload? value with
  | some (.stringLiteral _) => some value
  | some (.jsxContainer (some inner)) =>
    match t.payload? inner with
    | some (.stringLiteral _) => some inner
    | some (.template _ []) => some inner
    | _ => none
  | _ => none

/-- Is the text something to localise: has it letters, and is it no constant-like token? -/
def isLocalizable (text : String) : Bool :=
  Text.containsAlphabetic text && !Markup.isUpperCaseToken text

/-- The text an attribute shows to users without localising it, if it does. -/
def attributeText? (t : Tree) (ignored : List String) (name : String) (value : NodeId) :
    Option String := do
  if ignored.contains name then none
  let text := t.literalText (← attributeLiteral? t value)
  if isLocalizable text then some text else none

/-- The tag of the element an attribute belongs to. -/
def ownerTag? (t : Tree) (id : NodeId) : Option (NodeId × String) := do
  let owner ← t.parent? id
  return (owner, ← t.elementName? owner)

/-- The fault of an attribute node, if it has one. -/
def attributeFault? (t : Tree) (ignored : List String) (id : NodeId) : Option Fault :=
  match t.payload? id with
  | some (.jsxAttribute name (some value)) => do
    let text ← attributeText? t ignored name value
    let (owner, tag) ← ownerTag? t id
    if t.isInside id Markup.transComponent then none
    else if Markup.isAllowedAttribute tag name (t.attributeNames owner) then none
    else some (.unlocalizedAttribute tag name text)
  | _ => none

/-- Reports attributes at fault, when the pass enters them. -/
def unlocalizedAttribute (t : Tree) (ignored : List String) : Visitor Finding where
  subscriptions := [(.jsxAttribute, .enter)]
  respond _ id := ((attributeFault? t ignored id).map (t.report id)).toList

end MessageLint.Check

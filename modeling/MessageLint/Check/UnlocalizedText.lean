import MessageLint.Finding
import MessageLint.Text.Alphabetic
import MessageLint.Tree.LiteralText
import MessageLint.Tree.Markup
import MessageLint.Tree.Walk

/-!
# MessageLint — inline text

Text between tags that is not inside a translation component.
-/

namespace MessageLint.Check

/-- Elements whose content is code and not text for users. -/
def rawTextTags : List String := ["style", "script"]

/-- Is the direct parent of the node an element whose content is code? -/
def isRawText (t : Tree) (id : NodeId) : Bool :=
  (((t.parent? id).bind t.elementName?).map (rawTextTags.contains ·)).getD false

/-- The fault of an inline text, if it has one. -/
def textFault? (t : Tree) (ignored : List String) (id : NodeId) : Option Fault :=
  let text := t.literalText id
  if !Text.containsAlphabetic text || ignored.contains text then none
  else if isRawText t id then none
  else if (t.ancestors id).any t.isTranslation then none
  else some (.unlocalizedText text)

/-- Reports inline text at fault, when the pass enters it. -/
def unlocalizedText (t : Tree) (ignored : List String) : Visitor Finding where
  subscriptions := [(.jsxText, .enter)]
  respond _ id := ((textFault? t ignored id).map (t.report id)).toList

end MessageLint.Check

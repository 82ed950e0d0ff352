import MessageLint.Tree.Ancestors

/-!
# MessageLint — what tags, attributes and elements are

Classes of tag and attribute names, and of the nodes that carry them. Whatever lacks the expected
shape (a tag that is no plain name, a missing callee, a link to nowhere) is in no class.
-/

namespace MessageLint

namespace Markup

/-- Names of HTML elements. -/
def htmlTags : List String := [
    "a", "abbr", "address", "area", "article", "aside", "audio", "b", "base", "bdi", "bdo",
    "blockquote", "body", "br", "button", "canvas", "caption", "cite", "code", "col", "colgroup",
    "data", "datalist", "dd", "del", "details", "dfn", "dialog", "div", "dl", "dt", "em", "embed",
    "fieldset", "figcaption", "figure", "footer", "form", "h1", "h2", "h3", "h4", "h5", "h6",
    "head", "header", "hgroup", "hr", "html", "i", "iframe", "img", "input", "ins", "kbd",
    "label", "legend", "li", "link", "main", "map", "mark", "menu", "meta", "meter", "nav",
    "noscript", "object", "ol", "optgroup", "option", "output", "p", "param", "picture", "pre",
    "progress", "q", "rp", "rt", "ruby", "s", "samp", "script", "search", "section", "select",
    "slot", "small", "source", "span", "strong", "style", "sub", "summary", "sup", "table",
    "tbody", "td", "template", "textarea", "tfoot", "th", "thead", "time", "title", "tr", "track",
    "u", "ul", "var", "video", "wbr"]

/-- Names of SVG elements. Those that HTML has too (`a`, `script`, `style`, `title`) are left out,
so that the attributes of HTML elements are judged as such. -/
def svgTags : List String := [
    "svg", "animate", "animateMotion", "animateTransform", "circle", "clipPath", "defs", "desc",
    "ellipse", "feBlend", "feColorMatrix", "feComponentTransfer", "feComposite",
    "feConvolveMatrix", "feDiffuseLighting", "feDisplacementMap", "feDistantLight",
    "feDropShadow", "feFlood", "feFuncA", "feFuncB", "feFuncG", "feFuncR", "feGaussianBlur",
    "feImage", "feMerge", "feMergeNode", "feMorphology", "feOffset", "fePointLight",
    "feSpecularLighting", "feSpotLight", "feTile", "feTurbulence", "filter", "foreignObject", "g",
    "image", "line", "linearGradient", "marker", "mask", "metadata", "mpath", "path", "pattern",
    "polygon", "polyline", "radialGradient", "rect", "set", "stop", "switch", "symbol", "text",
    "textPath", "tspan", "use", "view"]

/-- The component that makes its whole content a message. -/
def transComponent : String := "Trans"

/-- Components that are messages only with the attributes that every choice needs. -/
def choiceComponents : List String := ["Plural", "Select"]

/-- The attributes that make a choice component a message. -/
def choiceAttributes : List String := ["value", "other"]

/-- Attributes of HTML elements whose text users see. -/
def visibleHtmlAttributes : List String := ["placeholder", "alt", "aria-label", "value"]

/-- Are all attributes that a choice needs among these? -/
def hasChoiceAttributes (attributes : List String) : Bool :=
  choiceAttributes.all (attributes.contains ·)

/-- Does an element with this tag and these attributes hold a message? -/
def isMessageTag (tag : String) (attributes : List String) : Bool :=
  tag == transComponent || (choiceComponents.contains tag && hasChoiceAttributes attributes)

/-- May an attribute with plain text stay as it is? All may on SVG elements; on HTML elements those
that users do not see; on components only those of a message. -/
def isAllowedAttribute (tag name : String) (attributes : List String) : Bool :=
  if svgTags.contains tag then true
  else if htmlTags.contains tag then !visibleHtmlAttributes.contains name
  else isMessageTag tag attributes

/-- A constant-like token: not empty, and only ASCII capitals, `_` and `-`. -/
def isUpperCaseToken (s : String) : Bool :=
  !s.toList.isEmpty && s.toList.all fun c => c.isUpper || c == '_' || c == '-'

/-- Tags that make a template a message. -/
def messageTags : List String := ["t", "msg", "defineMessage"]

/-- Calls that a message template may embed. -/
def choiceCalls : List String := ["plural", "select", "selectOrdinal"]

end Markup

namespace Tree

/-- Is the node a template with one of the tags that make it a message? -/
def isMessageTemplate (t : Tree) (id : NodeId) : Bool :=
  match t.payload? id with
  | some (.taggedTemplate (some tag) _) =>
    ((t.identifierName? tag).map (Markup.messageTags.contains ·)).getD false
  | _ => false

/-- The name of a call's callee, if that is a plain name. -/
def calleeName? (t : Tree) (id : NodeId) : Option String :=
  match t.payload? id with
  | some (.call (some callee) _) => t.identifierName? callee
  | _ => none

/-- Is the node a call that a message template may embed? -/
def isChoiceCall (t : Tree) (id : NodeId) : Bool :=
  ((t.calleeName? id).map (Markup.choiceCalls.contains ·)).getD false

/-- The attribute names of an element, in source order. -/
def attributeNames (t : Tree) (id : NodeId) : List String :=
  match t.payload? id with
  | some (.jsxElement _ attributes) =>
    attributes.filterMap fun link =>
      match t.payload? link with
      | some (.jsxAttribute name _) => some name
      | _ => none
  | _ => []

/-- Is the node an element whose content is a message? -/
def isTranslation (t : Tree) (id : NodeId) : Bool :=
  ((t.elementName? id).map fun tag => Markup.isMessageTag tag (t.attributeNames id)).getD false

end Tree

end MessageLint

import MessageLint.Tree.Basic
import MessageLint.Text.Blank

/-!
# MessageLint — the text of a literal

The trimmed text of a template, a string or inline text.
-/

namespace MessageLint.Tree

/-- The text of a literal node: of a template, its static segments with the interpolations left
out. Other nodes have no text. -/
def literalText (t : Tree) (id : NodeId) : String :=
  match t.payload? id with
  | some (.template quasis _) => Text.trim (String.join (quasis.filterMap fun quasi => quasi))
  | some (.stringLiteral value) => Text.trim value
  | some (.jsxText value) => Text.trim value
  | _ => ""

end MessageLint.Tree

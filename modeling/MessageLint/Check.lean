import MessageLint.Check.MessageExpression
import MessageLint.Check.UnlocalizedAttribute
import MessageLint.Check.UnlocalizedText
import MessageLint.Issue
import MessageLint.Suppression
import MessageLint.Text.Lines

/-!
# MessageLint — checking one file

All selected rules share one pass over the tree of a file. What they find is dropped where the
file's directives switch the rule off; the rest become issues.
-/

namespace MessageLint

/-- A file that has been read and parsed. -/
structure ParsedFile where
  tree : Tree
  source : String
  suppression : Suppression := {}

namespace Check

/-- What users can exempt from the rules. -/
structure Exemptions where
  /-- Inline texts that are never reported, compared after trimming. -/
  texts : List String := []
  /-- Attributes that are never reported. -/
  attributes : List String := []
deriving DecidableEq, Repr

/-- The visitors of the selected rules, in rule order. -/
def visitors (t : Tree) (rules : List Rule) (exempt : Exemptions) : List (Visitor Finding) :=
  (if rules.contains .messageExpression then [messageExpression t] else []) ++
  (if rules.contains .unlocalizedAttribute then [unlocalizedAttribute t exempt.attributes] else []) ++
  (if rules.contains .unlocalizedText then [unlocalizedText t exempt.texts] else [])

/-- What the selected rules find in a tree, in the order of the pass. A tree without a finite pass
yields nothing. -/
def findings (t : Tree) (rules : List Rule) (exempt : Exemptions) : List Finding :=
  (t.traverse? (visitors t rules exempt)).getD []

/-- A finding as an issue of a file. -/
def toIssue (path : String) (source : String) (f : Finding) : Issue :=
  .fault ⟨path, f.position.line, f.position.col, Text.lineAt source f.position.line⟩ f.fault

/-- The issues of one file, in the order of the pass. -/
def file (path : String) (parsed : ParsedFile) (rules : List Rule) (exempt : Exemptions) :
    List Issue :=
  ((findings parsed.tree rules exempt).filter fun f =>
    !parsed.suppression.ignores f.position.line f.fault.rule).map (toIssue path parsed.source)

end Check

end MessageLint

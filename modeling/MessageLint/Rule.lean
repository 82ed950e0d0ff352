/-!
# MessageLint — rules and severities

The rules a finding can belong to, their names, and how serious each is.
-/

namespace MessageLint

/-- How serious an issue is. Only errors make a check fail. -/
inductive Severity where
  | error
  | warning
deriving DecidableEq, Repr

/-- The word shown to users. -/
def Severity.name : Severity → String
  | error => "error"
  | warning => "warning"

/-- The rules, in the order in which issues at one place are sorted. -/
inductive Rule where
  /-- A message template embeds more than plain variables and plural or select calls. -/
  | messageExpression
  /-- A string attribute that users see is not localised. -/
  | unlocalizedAttribute
  /-- Inline text outside a translation component. -/
  | unlocalizedText
  /-- The file cannot be read or is not a program. -/
  | parseError
deriving DecidableEq, Repr

namespace Rule

/-- The name shown to users and accepted in directives and on the command line. -/
def name : Rule → String
  | messageExpression => "message-expression"
  | unlocalizedAttribute => "unlocalized-attribute"
  | unlocalizedText => "unlocalized-text"
  | parseError => "parse-error"

/-- The place of a rule in the sort order. -/
def rank : Rule → Nat
  | messageExpression => 0
  | unlocalizedAttribute => 1
  | unlocalizedText => 2
  | parseError => 3

/-- Only an unlocalised attribute is a mere warning. -/
def severity : Rule → Severity
  | unlocalizedAttribute => .warning
  | _ => .error

/-- The rules that inspect a program, and that a comment can switch off. -/
def suppressible : List Rule := [messageExpression, unlocalizedAttribute, unlocalizedText]

/-- All rules, in sort order. -/
def all : List Rule := [messageExpression, unlocalizedAttribute, unlocalizedText, parseError]

/-- The rule with exactly this name. -/
def ofName? (s : String) : Option Rule := all.find? (·.name == s)

/-- The suppressible rule with this name in any mixture of cases. Names consist of ASCII letters
other than `k`, and no character beyond ASCII has one of those as its lower-case form, so folding
the ASCII letters decides the comparison for every text. -/
def parse? (s : String) : Option Rule :=
  suppressible.find? (·.name.toList == s.toList.map Char.toLower)

end Rule

end MessageLint

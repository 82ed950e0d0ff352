import MessageLint.Rule
import MessageLint.Text.Blank

/-!
# MessageLint — directives in comments

A comment whose first word is the name of a directive switches rules off or on. The words after it
that name rules restrict it to them.
-/

namespace MessageLint

/-- What a directive does. -/
inductive DirectiveKind where
  /-- Switches rules off from its line on. -/
  | disable
  /-- Switches rules on again from its line on. -/
  | enable
  /-- Switches rules off on the next line only. -/
  | disableNextLine
deriving DecidableEq, Repr

/-- A directive and the rules it is about, in rule order. -/
structure Directive where
  kind : DirectiveKind
  rules : List Rule
deriving DecidableEq, Repr

namespace Directive

/-- The names of directives. A name stands before the names it extends. -/
def names : List (String × DirectiveKind) := [
  ("msglint-disable-next-line", .disableNextLine),
  ("msglint-disable", .disable),
  ("msglint-enable", .enable)]

/-- The rules that the words of a text name; all of them if it names none. -/
def namedRules (s : String) : List Rule :=
  let named := (Text.words s).filterMap Rule.parse?
  if named.isEmpty then Rule.suppressible else Rule.suppressible.filter (named.contains ·)

/-- Reads what follows a directive's name: nothing, or a blank and words. -/
def ofRest? (kind : DirectiveKind) : List Char → Option Directive
  | [] => some ⟨kind, namedRules ""⟩
  | c :: rest =>
    if Text.isBlank c then some ⟨kind, namedRules (String.ofList (c :: rest))⟩ else none

/-- Reads the characters of a comment against a list of names; the first name they begin with
decides. -/
def parseWith? (cs : List Char) : List (String × DirectiveKind) → Option Directive
  | [] => none
  | (name, kind) :: others =>
    match Text.dropLead? name.toList cs with
    | some rest => ofRest? kind rest
    | none => parseWith? cs others

/-- The directive that a comment holds, if it holds one. -/
def parse? (comment : String) : Option Directive :=
  parseWith? (Text.trimChars comment.toList) names

end Directive

end MessageLint

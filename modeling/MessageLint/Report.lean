import MessageLint.Issue
import MessageLint.Report.Style
import MessageLint.Text.DisplayWidth

/-!
# MessageLint — reports

The text that a check writes for its user: each issue with the line it is on and a caret below the
place, then a summary; or a line that says that nothing was found.
-/

namespace MessageLint.Report

/-- The digits of the greatest line number among issues that have a place; 1 if none has. -/
def gutterWidth (issues : List Issue) : Nat :=
  match (issues.filterMap fun i => i.place?.map (·.line)).max? with
  | some line => (toString line).length
  | none => 1

/-- The style of a severity's word. -/
def severityStyle : Severity → Style
  | .error => .boldColour .red
  | .warning => .boldColour .yellow

/-- The style of the caret. -/
def caretStyle : Severity → Style
  | .error => .colour .red
  | .warning => .colour .yellow

/-- An empty field as wide as the line numbers, and a blank. -/
def margin (width : Nat) : Piece := plain (padLeft width "" ++ " ")

/-- The bar between line numbers and source. -/
def bar : Piece := styled (.colour .blue) "|"

/-- The arrow before a place. -/
def arrow : List Piece := [plain "  ", styled (.colour .blue) "-->", plain " "]

/-- Columns are counted from 1; the caret stands below the character at its column. -/
def caretPad (p : Place) : Nat :=
  Text.displayWidth (String.ofList (p.sourceLine.toList.take (p.col - 1)))

/-- Severity, message and rule. -/
def headline (i : Issue) : List Piece := [
  styled (severityStyle i.severity) i.severity.name,
  plain (": " ++ (if i.quotesUser then "\"" ++ i.message ++ "\"" else i.message) ++ "  "),
  styled (.dimColour .cyan) i.rule.name,
  plain "\n"]

/-- The place, the line it is on, and the caret. -/
def sourceRows (width : Nat) (severity : Severity) (p : Place) : List Piece :=
  arrow ++ [
    plain (p.path ++ ":" ++ toString p.line ++ ":" ++ toString p.col ++ "\n"),
    margin width, bar, plain "\n",
    styled (.colour .blue) (padLeft width (toString p.line)), plain " ", bar,
    plain (" " ++ p.sourceLine ++ "\n"),
    margin width, bar, plain (" " ++ padLeft (caretPad p) ""),
    styled (caretStyle severity) "^", plain "\n"]

/-- A remark below the source. -/
def remark (width : Nat) (style : Style) (label text : String) : List Piece := [
  margin width, styled (.colour .blue) "=", plain " ", styled style label,
  plain (" " ++ text ++ "\n")]

/-- Where an issue is. -/
def location (width : Nat) (i : Issue) : List Piece :=
  match i.place? with
  | some p => sourceRows width i.severity p
  | none => arrow ++ [plain (i.path ++ "\n")]

/-- One issue, with an empty line after it. -/
def issueRows (width : Nat) (i : Issue) : List Piece :=
  headline i ++ location width i ++
    ((i.details?.map (remark width .bold "note:")).getD []) ++
    ((i.hint?.map (remark width (.boldColour .cyan) "hint:")).getD []) ++
    [plain "\n"]

/-- A word in the number that a count asks for. -/
def countWord (n : Nat) (word : String) : String := if n = 1 then word else word ++ "s"

/-- The mark of success. -/
def successMark : String := "\u2713"

/-- The mark of failure. -/
def failureMark : String := "\u2718"

/-- How many problems there are. -/
def summary (issues : List Issue) : List Piece :=
  let errors := Issue.errorCount issues
  let warnings := issues.length - errors
  [styled (.colour .red) failureMark,
    plain (" " ++ toString issues.length ++ " " ++ countWord issues.length "problem" ++ " (" ++
      toString errors ++ " "),
    styled (.colour .red) (countWord errors "error"),
    plain (", " ++ toString warnings ++ " "),
    styled (.colour .yellow) (countWord warnings "warning"),
    plain ")\n"]

/-- The report on issues, in their order; empty if there are none. -/
def ofIssues (issues : List Issue) : List Piece :=
  if issues.isEmpty then []
  else
    let sorted := Issue.sort issues
    sorted.flatMap (issueRows (gutterWidth sorted)) ++ summary sorted

/-- What a check writes that finds nothing. -/
def success (sourceFiles : Nat) : List Piece := [
  styled (.colour .green) successMark, plain " ",
  styled (.colour .green)
    ("Checked " ++ toString sourceFiles ++ " source " ++ countWord sourceFiles "file" ++
      " - no issues found"),
  plain "\n"]

/-- The label of a warning. -/
def warningLabel : Piece := styled (.boldColour .yellow) "warning:"

/-- A warning on a line of its own. -/
def warning (text : String) : List Piece := [warningLabel, plain (" " ++ text ++ "\n")]

/-- A hint at files that could not be parsed; not needed if the details have been shown. -/
def parseWarning (count : Nat) (verbose : Bool) : List Piece :=
  if count > 0 && !verbose then [
    warningLabel,
    plain (" " ++ toString count ++ " file(s) could not be parsed (use "),
    styled (.colour .cyan) "-v",
    plain " for details)\n"]
  else []

end MessageLint.Report

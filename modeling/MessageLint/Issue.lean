import MessageLint.Finding

/-!
# MessageLint — issues

What a check tells its user: a fault at a place in a file, or a file that cannot be checked. An
issue holds all that a report needs. Issues are ordered by file, place, rule and message.
-/

namespace MessageLint

/-- A place in a file, with the line it is on. -/
structure Place where
  path : String
  line : Nat
  col : Nat
  sourceLine : String
deriving DecidableEq, Repr

/-- An issue. -/
inductive Issue where
  | fault (place : Place) (fault : Fault)
  | unparsed (path reason : String)
deriving DecidableEq, Repr

namespace Issue

/-- The rule an issue belongs to. -/
def rule : Issue → Rule
  | fault _ f => f.rule
  | unparsed .. => .parseError

/-- How serious an issue is. -/
def severity (i : Issue) : Severity := i.rule.severity

/-- The file an issue is about. -/
def path : Issue → String
  | fault place _ => place.path
  | unparsed path _ => path

/-- The place of an issue; one about a whole file has none. -/
def place? : Issue → Option Place
  | fault place _ => some place
  | unparsed .. => none

/-- The message shown to users. -/
def message : Issue → String
  | fault _ f => f.message
  | unparsed _ reason => reason

/-- A remark on where the fault is. -/
def details? : Issue → Option String
  | fault _ (.unlocalizedAttribute tag name _) => some ("in `" ++ name ++ "` of <" ++ tag ++ ">")
  | _ => none

/-- Advice on how to mend the fault. -/
def hint? : Issue → Option String
  | fault _ .disallowedExpression =>
    some "assign the value to a variable first, e.g. `const name = user.name`"
  | fault _ (.unlocalizedText _) => some "wrap the text in <Trans>"
  | _ => none

/-- Is the message text of the user's own, to be shown in quotes? -/
def quotesUser : Issue → Bool
  | fault _ (.unlocalizedAttribute ..) => true
  | fault _ (.unlocalizedText _) => true
  | _ => false

/-- The line by which an issue is sorted; an issue about a whole file comes first. -/
def sortLine (i : Issue) : Nat := (i.place?.map (·.line)).getD 0

/-- The column by which an issue is sorted. -/
def sortCol (i : Issue) : Nat := (i.place?.map (·.col)).getD 0

/-- Issues are ordered by path, line, column, rule and message; texts by code points. -/
def order (a b : Issue) : Ordering :=
  (compare a.path b.path).then <|
    (compare a.sortLine b.sortLine).then <|
      (compare a.sortCol b.sortCol).then <|
        (compare a.rule.rank b.rule.rank).then (compare a.message b.message)

/-- Does `a` come before `b`, or are they equal in the order? -/
def le (a b : Issue) : Bool := (order a b).isLE

/-- Issues in order; equal ones keep their places. -/
def sort (issues : List Issue) : List Issue := issues.mergeSort le

/-- The number of errors among issues. -/
def errorCount (issues : List Issue) : Nat := issues.countP (·.severity == .error)

end Issue

end MessageLint

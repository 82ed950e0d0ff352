import MessageLint.Directive

/-!
# MessageLint — which lines a file's directives switch off

The directives of a file, in line order, become single lines and ranges of lines on which a rule is
switched off.
-/

namespace MessageLint

/-- A comment: the line it starts on and the text between its delimiters. -/
structure Comment where
  line : Nat
  text : String
deriving DecidableEq, Repr

/-- Lines from `first` to `last` inclusive; without a last line, to the end of the file. -/
structure LineRange where
  first : Nat
  last : Option Nat
deriving DecidableEq, Repr

/-- Is the line in the range? -/
def LineRange.contains (r : LineRange) (line : Nat) : Bool :=
  r.first ≤ line && match r.last with
    | some last => line ≤ last
    | none => true

/-- The lines on which rules are switched off. -/
structure Suppression where
  lines : List (Rule × Nat) := []
  ranges : List (Rule × LineRange) := []
deriving DecidableEq, Repr

namespace Suppression

/-- Is the rule switched off on the line? -/
def ignores (s : Suppression) (line : Nat) (rule : Rule) : Bool :=
  s.lines.contains (rule, line) || s.ranges.any fun (r, range) => r == rule && range.contains line

/-- A suppression while the comments are read: the ranges that are still open, and what has been
settled before. -/
structure Reading where
  settled : Suppression := {}
  opened : List (Rule × Nat) := []
deriving DecidableEq, Repr

namespace Reading

/-- Opens a range for the rule unless one is open. -/
def openRange (line : Nat) (r : Reading) (rule : Rule) : Reading :=
  match r.opened.lookup rule with
  | some _ => r
  | none => { r with opened := r.opened ++ [(rule, line)] }

/-- Closes the open range of the rule, if there is one, on the line before. -/
def closeRange (line : Nat) (r : Reading) (rule : Rule) : Reading :=
  match r.opened.lookup rule with
  | some first =>
    { settled :=
        { r.settled with ranges := r.settled.ranges ++ [(rule, ⟨first, some (line - 1)⟩)] }
      opened := r.opened.filter (·.1 != rule) }
  | none => r

/-- Switches the rule off on the next line. -/
def skipNextLine (line : Nat) (r : Reading) (rule : Rule) : Reading :=
  { r with settled := { r.settled with lines := r.settled.lines ++ [(rule, line + 1)] } }

/-- Follows one directive. -/
def follow (r : Reading) (line : Nat) (d : Directive) : Reading :=
  match d.kind with
  | .disable => d.rules.foldl (openRange line) r
  | .enable => d.rules.foldl (closeRange line) r
  | .disableNextLine => d.rules.foldl (skipNextLine line) r

/-- Reads one comment. -/
def comment (r : Reading) (c : Comment) : Reading :=
  match Directive.parse? c.text with
  | some d => r.follow c.line d
  | none => r

/-- Ranges that are still open reach to the end of the file. -/
def finish (r : Reading) : Suppression :=
  { r.settled with
    ranges := r.settled.ranges ++ r.opened.map fun (rule, first) => (rule, ⟨first, .none⟩) }

end Reading

/-- The suppression that comments in line order make. -/
def ofSorted (comments : List Comment) : Suppression :=
  (comments.foldl Reading.comment {}).finish

/-- The suppression that comments make; they are put into line order first, and comments of one
line keep the order in which they come, which can be any. -/
def ofComments (comments : List Comment) : Suppression :=
  ofSorted (comments.mergeSort fun a b => a.line ≤ b.line)

end Suppression

end MessageLint

/-!
# MessageLint — the lines of a text

A line ends at a line feed; a carriage return right before the line feed belongs to the line break.
-/

namespace MessageLint.Text

/-- Drops one final carriage return from a reversed line. -/
def dropReturn : List Char → List Char
  | '\r' :: rest => rest
  | line => line

/-- The lines of a text; `line` holds the current line reversed. What follows the last line feed is
a line only if it is not empty. -/
def linesFrom (line : List Char) : List Char → List (List Char)
  | [] => if line.isEmpty then [] else [line.reverse]
  | '\n' :: rest => (dropReturn line).reverse :: linesFrom [] rest
  | c :: rest => linesFrom (c :: line) rest

/-- The lines of a text, without their line breaks. -/
def lines (s : String) : List String := (linesFrom [] s.toList).map String.ofList

/-- The line with the given number, counted from 1; empty if there is none. -/
def lineAt (s : String) (number : Nat) : String :=
  match number with
  | 0 => ""
  | index + 1 => ((lines s)[index]?).getD ""

end MessageLint.Text

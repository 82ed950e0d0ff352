import MessageLint.Check
import MessageLint.Source.Location
import MessageLint.Source.Outline.Tree
import MessageLint.Source.Parser.Grammar

/-!
# MessageLint — source files

From the text of a source file to the file as the checks see it.
-/

namespace MessageLint.Source

/-- The characters of a text, without a byte order mark at its beginning. -/
def visibleChars (text : String) : List Char :=
  match text.toList with
  | c :: rest => if c.toNat == 0xFEFF then rest else c :: rest
  | [] => []

/-- A comment with the line it starts on. -/
def toComment (locate : Nat → Position) (c : RawComment) : Comment :=
  ⟨(locate c.start).line, c.text⟩

/-- Parses the text of a source file. The comments are handed on in the order of the text, but none
of their readers should rely on it: the order of comments only decides about a rule that one line
switches both off and on. -/
def parse (text : String) : Except ParseError ParsedFile := do
  let cs := visibleChars text
  let found ← contents cs
  return {
    tree := found.outline.toTree (locate cs)
    source := text
    suppression := .ofComments (found.comments.map (toComment (locate cs))) }

end MessageLint.Source

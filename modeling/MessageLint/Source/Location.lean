import MessageLint.Text.CharWidth
import MessageLint.Tree.Basic

/-!
# MessageLint — places in a source text

From an offset in bytes to a line and a column. Lines end at a line feed, a carriage return, or
both together. Columns count terminal cells: a tab takes four and a control character none.
Characters that two 16-bit units stand for count one more than their cells.
-/

namespace MessageLint.Source

/-- What one character adds to a column. -/
def columnWidth (c : Char) : Nat :=
  if c == '\t' then 4
  else if Text.isControl c then 0
  else Text.cellWidth c + if c.toNat < 0x10000 then 0 else 1

/-- Walks to the character at `offset`, when `passed` bytes lie behind. An offset inside a character
counts the whole character, less the bytes beyond the offset. -/
def locateFrom (offset : Nat) (passed line cells : Nat) : List Char → Position
  | [] => ⟨line, cells - (passed - offset) + 1⟩
  | c :: rest =>
    if offset ≤ passed then ⟨line, cells - (passed - offset) + 1⟩
    else
      let passed := passed + c.utf8Size
      match c, rest with
      | '\n', rest => locateFrom offset passed (line + 1) 0 rest
      | '\r', '\n' :: after => locateFrom offset passed line cells ('\n' :: after)
      | '\r', rest => locateFrom offset passed (line + 1) 0 rest
      | c, rest => locateFrom offset passed line (cells + columnWidth c) rest

/-- The position of the character at a byte offset. A text without characters has no first line. -/
def locate (text : List Char) (offset : Nat) : Position :=
  match text with
  | [] => ⟨0, 1⟩
  | text => locateFrom offset 0 1 0 text

end MessageLint.Source

import MessageLint.Text.Blank
import MessageLint.Text.CharWidth

/-!
# MessageLint — quoted text in messages

Text that a message shows in double quotes. Quotes, backslashes and characters that cannot be seen
are escaped.
-/

namespace MessageLint.Text

/-- Hexadecimal digits, lower case, without leading zeros. -/
def hexDigits (n : Nat) : List Char := Nat.toDigits 16 n

/-- Can the character be seen? Blanks other than the space, controls, marks, invisible and private
characters cannot. -/
def isVisible (c : Char) : Bool :=
  let n := c.toNat
  c == ' ' || !(isControl c || isBlank c || (n ≥ 0xA0 && inRanges zeroWidthRanges n) ||
    (0x200B ≤ n && n ≤ 0x200F) || (0x202A ≤ n && n ≤ 0x202E) || (0xE000 ≤ n && n ≤ 0xF8FF) ||
    (0xFFF9 ≤ n && n ≤ 0xFFFB) || n ≥ 0xE0000)

/-- One character of a quoted text. -/
def quotedChar (c : Char) : List Char :=
  if c == '"' then ['\\', '"']
  else if c == '\\' then ['\\', '\\']
  else if c == '\n' then ['\\', 'n']
  else if c == '\r' then ['\\', 'r']
  else if c == '\t' then ['\\', 't']
  else if c.toNat == 0 then ['\\', '0']
  else if isVisible c then [c]
  else ['\\', 'u', '\x7b'] ++ hexDigits c.toNat ++ ['\x7d']

/-- The text in double quotes. -/
def quoted (s : String) : String := String.ofList ('"' :: s.toList.flatMap quotedChar ++ ['"'])

end MessageLint.Text

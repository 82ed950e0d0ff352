/-!
# MessageLint — blanks, trimming and words

The Unicode property White_Space, and the operations on text that depend on it.
-/

namespace MessageLint.Text

/-- Has `c` the Unicode property White_Space? -/
def isBlank (c : Char) : Bool :=
  let n := c.toNat
  (0x9 ≤ n && n ≤ 0xD) || n == 0x20 || n == 0x85 || n == 0xA0 || n == 0x1680 ||
    (0x2000 ≤ n && n ≤ 0x200A) || n == 0x2028 || n == 0x2029 || n == 0x202F || n == 0x205F ||
    n == 0x3000

/-- The characters without the blanks at either end. -/
def trimChars (cs : List Char) : List Char :=
  ((cs.dropWhile isBlank).reverse.dropWhile isBlank).reverse

/-- The text without the blanks at either end. -/
def trim (s : String) : String := String.ofList (trimChars s.toList)

/-- The maximal runs of non-blank characters, in order; `word` holds the current run reversed. -/
def wordsFrom (word : List Char) : List Char → List (List Char)
  | [] => if word.isEmpty then [] else [word.reverse]
  | c :: rest =>
    if isBlank c then
      if word.isEmpty then wordsFrom [] rest else word.reverse :: wordsFrom [] rest
    else wordsFrom (c :: word) rest

/-- The blank-separated words of a text. -/
def words (s : String) : List String := (wordsFrom [] s.toList).map String.ofList

/-- `some rest` if the characters begin with `lead`. -/
def dropLead? (lead : List Char) (cs : List Char) : Option (List Char) :=
  match lead, cs with
  | [], cs => some cs
  | _ :: _, [] => none
  | l :: lead, c :: cs => if l == c then dropLead? lead cs else none

end MessageLint.Text

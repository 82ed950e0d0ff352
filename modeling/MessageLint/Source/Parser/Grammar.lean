import MessageLint.Source.Parser.Declarations

/-!
# MessageLint — parsing: the whole grammar

The grammar of a given depth, and the outline of a text. Every construct inside another is at least
one character shorter, so a depth of a few times the length of the text is never used up.
-/

namespace MessageLint.Source

/-- The grammar one level deeper than a given one. -/
def Grammar.deepen (g : Grammar) : Grammar where
  expression := Parser.expression g
  assignment := Parser.assignment g
  unary := Parser.unary g
  type := Parser.type g
  binding := Parser.binding g
  target := Parser.target g
  statement := Parser.statement g
  element := Parser.element g

/-- The grammar of constructs nested up to a depth. -/
def Grammar.ofDepth (n : Nat) : Grammar := n.repeat deepen bottom

/-- Statements up to the end of the text. -/
def Parser.program (g : Grammar) : Parser (List Part) := do
  let parts ← many do
    if (← peek).isEnd then return none
    return some (← g.statement)
  takeComments
  return parts.flatten

/-- Passes over a first line that tells which program runs the text. -/
def skipInterpreterLine (r : Remaining) : Remaining :=
  match r.chars with
  | '#' :: '!' :: _ =>
    let line := r.chars.takeWhile (!isLineTerminator ·)
    ⟨r.chars.drop line.length, r.offset + (String.ofList line).utf8ByteSize⟩
  | _ => r

/-- What a text holds: its outline, and the comments between its tokens in order. -/
structure Contents where
  outline : Outline
  comments : List RawComment

/-- Where a program is said to start: at its first token, or at its very beginning if it has an
interpreter line or no token at all. -/
def programStart (r : Remaining) (first : Token) : Nat :=
  if first.isEnd || (skipInterpreterLine r).offset != r.offset then r.offset else first.start

/-- The contents of a text. -/
def contents (text : List Char) : Except ParseError Contents :=
  let r : Remaining := ⟨text, 0⟩
  let state := State.ofRemaining (skipInterpreterLine r)
  match Parser.program (Grammar.ofDepth (4 * text.length + 16)) state with
  | .ok (parts, last) =>
    .ok ⟨⟨programStart r state.token, parts⟩, last.comments.reverse⟩
  | .error failure => .error failure.reason

end MessageLint.Source

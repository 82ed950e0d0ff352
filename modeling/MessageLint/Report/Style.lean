/-!
# MessageLint — styled text

Text in pieces that may have a style. A styled piece is written between escape sequences if colours
are on, and plainly otherwise.
-/

namespace MessageLint.Report

/-- Colours of terminal text. -/
inductive Colour where
  | red
  | green
  | yellow
  | blue
  | cyan
deriving DecidableEq, Repr

/-- The code that selects a colour. -/
def Colour.code : Colour → String
  | red => "31"
  | green => "32"
  | yellow => "33"
  | blue => "34"
  | cyan => "36"

/-- Styles in use. -/
inductive Style where
  | colour (c : Colour)
  | bold
  | boldColour (c : Colour)
  | dimColour (c : Colour)
deriving DecidableEq, Repr

/-- The codes that select a style. -/
def Style.codes : Style → String
  | colour c => c.code
  | bold => "1"
  | boldColour c => "1;" ++ c.code
  | dimColour c => "2;" ++ c.code

/-- A piece of text with at most one style. -/
structure Piece where
  style : Option Style
  text : String
deriving DecidableEq, Repr

/-- Text without a style. -/
def plain (text : String) : Piece := ⟨none, text⟩

/-- Text with a style. -/
def styled (style : Style) (text : String) : Piece := ⟨some style, text⟩

/-- The escape character. -/
def escape : String := "\x1b"

/-- Writes one piece. -/
def Piece.render (colours : Bool) (p : Piece) : String :=
  match p.style, colours with
  | some style, true => escape ++ "[" ++ style.codes ++ "m" ++ p.text ++ escape ++ "[0m"
  | _, _ => p.text

/-- Writes pieces one after the other. -/
def render (colours : Bool) (pieces : List Piece) : String :=
  String.join (pieces.map (·.render colours))

/-- The text moved to the right end of a field of `width` characters. -/
def padLeft (width : Nat) (text : String) : String :=
  String.ofList (List.replicate (width - text.length) ' ') ++ text

end MessageLint.Report

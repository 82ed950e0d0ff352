/-!
# MessageLint — glob patterns

Patterns over texts: `?` is any character, `*` any run of characters, `[..]` and `[!..]` classes,
and `**` as a whole path component any run of components.
-/

namespace MessageLint.Files

namespace Glob

/-- A member of a class. -/
inductive Member where
  | char (c : Char)
  | range (first last : Char)
deriving DecidableEq, Repr

/-- Is the character meant by the member? -/
def Member.matches (m : Member) (c : Char) : Bool :=
  match m with
  | char d => c == d
  | range first last => first ≤ c && c ≤ last

/-- A part of a pattern. -/
inductive Token where
  | char (c : Char)
  | anyChar
  /-- Any run of characters. -/
  | anyRun
  /-- Nothing, or any run that ends with a slash, or all that is left. -/
  | anyComponents
  | within (members : List Member)
  | except (members : List Member)
deriving DecidableEq, Repr

/-- What can be wrong with a pattern. -/
inductive Fault where
  | wildcards
  | recursiveWildcards
  | range
deriving DecidableEq, Repr

/-- A fault and the number of characters before it. -/
structure PatternError where
  position : Nat
  fault : Fault
deriving DecidableEq, Repr

/-- The description of a fault. -/
def Fault.message : Fault → String
  | wildcards => "wildcards are either regular `*` or recursive `**`"
  | recursiveWildcards => "recursive wildcards must form a single path component"
  | range => "invalid range pattern"

/-- The message about a pattern that is refused. -/
def PatternError.message (e : PatternError) : String :=
  "Pattern syntax error near position " ++ toString e.position ++ ": " ++ e.fault.message

/-- The members of a class. -/
def classMembers : List Char → List Member
  | first :: '-' :: last :: rest => .range first last :: classMembers rest
  | c :: rest => .char c :: classMembers rest
  | [] => []

/-- Splits at the first closing bracket. -/
def untilBracket : List Char → Option (List Char × List Char)
  | [] => none
  | c :: rest =>
    if c == ']' then some ([], rest) else (untilBracket rest).map fun (cs, r) => (c :: cs, r)

/-- The class after an opening bracket, and what follows it. The first character after the bracket
or after `!` is always a member. -/
def classToken? : List Char → Option (Token × List Char)
  | '!' :: first :: rest =>
    (untilBracket rest).map fun (cs, r) => (.except (classMembers (first :: cs)), r)
  | first :: rest =>
    if first == '!' then none
    else (untilBracket rest).map fun (cs, r) => (.within (classMembers (first :: cs)), r)
  | [] => none

/-- Adds a token to reversed tokens; of consecutive component runs after the first token one is
enough. -/
def pushComponents (tokens : List Token) : List Token :=
  if tokens.length > 1 && tokens.head? == some .anyComponents then tokens
  else .anyComponents :: tokens

/-- Reads a pattern. `position` characters have been read, the last of them `previous`; `tokens`
holds what they stand for, reversed. Each step takes a character, so `fuel` need only exceed the
number of characters left. -/
def parseFrom (fuel position : Nat) (previous : Option Char) (tokens : List Token)
    (cs : List Char) : Except PatternError (List Token) :=
  match fuel, cs with
  | 0, _ => .ok tokens.reverse
  | _, [] => .ok tokens.reverse
  | fuel + 1, c :: rest =>
    if c == '?' then parseFrom fuel (position + 1) (some c) (.anyChar :: tokens) rest
    else if c == '*' then
      match rest with
      | '*' :: '*' :: _ => .error ⟨position + 2, .wildcards⟩
      | '*' :: rest =>
        if previous.isNone || previous == some '/' then
          match rest with
          | [] => .ok (pushComponents tokens).reverse
          | d :: rest =>
            if d == '/' then
              parseFrom fuel (position + 3) (some d) (pushComponents tokens) rest
            else .error ⟨position + 2, .recursiveWildcards⟩
        else .error ⟨position - 1, .recursiveWildcards⟩
      | rest => parseFrom fuel (position + 1) (some c) (.anyRun :: tokens) rest
    else if c == '[' then
      match classToken? rest with
      | some (token, after) =>
        parseFrom fuel (position + 1 + (rest.length - after.length)) (some ']') (token :: tokens)
          after
      | none => .error ⟨position, .range⟩
    else parseFrom fuel (position + 1) (some c) (.char c :: tokens) rest

/-- The tokens of a pattern. -/
def parse (pattern : String) : Except PatternError (List Token) :=
  parseFrom (pattern.length + 1) 0 none [] pattern.toList

/-- Does the token stand for exactly this one character? -/
def Token.matchesChar (t : Token) (c : Char) : Bool :=
  match t with
  | char d => c == d
  | anyChar => true
  | within members => members.any (·.matches c)
  | except members => !members.any (·.matches c)
  | anyRun | anyComponents => false

/-- Some suffix of the text, the whole text included. -/
def anySuffix (p : List Char → Bool) : List Char → Bool
  | [] => p []
  | c :: rest => p (c :: rest) || anySuffix p rest

/-- Some suffix of the text that follows a slash. -/
def anySuffixAfterSlash (p : List Char → Bool) : List Char → Bool
  | [] => false
  | c :: rest => (c == '/' && p rest) || anySuffixAfterSlash p rest

/-- Do the tokens match the whole text? -/
def matchesChars : List Token → List Char → Bool
  | [], cs => cs.isEmpty
  | .anyRun :: tokens, cs => anySuffix (matchesChars tokens) cs
  | .anyComponents :: tokens, cs =>
    matchesChars tokens cs || anySuffixAfterSlash (matchesChars tokens) cs ||
      matchesChars tokens []
  | _ :: _, [] => false
  | t :: tokens, c :: cs => t.matchesChar c && matchesChars tokens cs

/-- Do the tokens match the text? -/
def matchesText (tokens : List Token) (s : String) : Bool := matchesChars tokens s.toList

/-- Entries with a `*` or a `?` are patterns; others are plain paths, so that brackets in them need
no escape. -/
def isPattern (s : String) : Bool := s.toList.any fun c => c == '*' || c == '?'

end Glob

end MessageLint.Files

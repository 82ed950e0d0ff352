/-!
# MessageLint — texts that are no programs

Why a source text cannot be parsed, and what is said about it.
-/

namespace MessageLint.Source

/-- The first reason why a text is no program. -/
inductive ParseError where
  | expressionExpected
  | nameExpected
  | endOfStatementExpected
  | emptyParentheses
  /-- One definite token was needed. -/
  | expected (wanted got : String)
  /-- One of several things was needed. -/
  | unexpected (got wanted : String)
  | closingTagExpected (tag : String)
  | attributeValueExpected
  | badEscape (wanted : String)
  | octalInTemplate
  | unterminatedString
  | unterminatedTemplate
  | unterminatedComment
  | unterminatedRegExp
  | nameAfterNumber
  | unexpectedCharacter (c : Char)
  /-- The text is nested more deeply than its length allows; this does not happen. -/
  | tooDeep
deriving DecidableEq, Repr

/-- The message about a text that is no program. -/
def ParseError.message : ParseError → String
  | expressionExpected => "Expression expected"
  | nameExpected => "Expected ident"
  | endOfStatementExpected => "Expected ';', '\x7d' or <eof>"
  | emptyParentheses => "Parenthesized expression cannot be empty"
  | expected wanted got => "Expected '" ++ wanted ++ "', got '" ++ got ++ "'"
  | unexpected got wanted => "Unexpected token `" ++ got ++ "`. Expected " ++ wanted
  | closingTagExpected tag => "Expected corresponding JSX closing tag for <" ++ tag ++ ">"
  | attributeValueExpected =>
    "JSX value should be either an expression or a quoted JSX text"
  | badEscape wanted => "Bad character escape sequence, expected " ++ wanted
  | octalInTemplate => "Octal escape sequences are not allowed in template strings"
  | unterminatedString => "Unterminated string constant"
  | unterminatedTemplate => "Unterminated template"
  | unterminatedComment => "Unterminated block comment"
  | unterminatedRegExp => "Unterminated regexp literal"
  | nameAfterNumber => "Identifier cannot follow number"
  | unexpectedCharacter c => "Unexpected character '" ++ String.singleton c ++ "'"
  | tooDeep => "Nested too deeply"

end MessageLint.Source

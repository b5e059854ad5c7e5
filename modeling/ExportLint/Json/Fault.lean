/-!
What can be wrong with the text of a JSON document.
-/

namespace ExportLint.Json

inductive Fault where
  | endInValue
  | endInList
  | endInObject
  | endInString
  | expectedValue
  | expectedWord
  | expectedColon
  | expectedCommaOrBracket
  | expectedCommaOrBrace
  | trailingComma
  | trailingCharacters
  | keyNotString
  | invalidEscape
  | unfinishedPair
  | unpairedSurrogate
  | controlCharacter
  | invalidNumber
  | outOfRange
  | tooDeep
deriving DecidableEq, Repr, Inhabited

namespace Fault

def message : Fault → String
  | endInValue => "EOF while parsing a value"
  | endInList => "EOF while parsing a list"
  | endInObject => "EOF while parsing an object"
  | endInString => "EOF while parsing a string"
  | expectedValue => "expected value"
  | expectedWord => "expected ident"
  | expectedColon => "expected `:`"
  | expectedCommaOrBracket => "expected `,` or `]`"
  | expectedCommaOrBrace => "expected `,` or `\x7d`"
  | trailingComma => "trailing comma"
  | trailingCharacters => "trailing characters"
  | keyNotString => "key must be a string"
  | invalidEscape => "invalid escape"
  | unfinishedPair => "unexpected end of hex escape"
  | unpairedSurrogate => "lone leading surrogate in hex escape"
  | controlCharacter => "control character (\\u0000-\\u001F) found while parsing a string"
  | invalidNumber => "invalid number"
  | outOfRange => "number out of range"
  | tooDeep => "recursion limit exceeded"

end Fault

/-- A reader takes a text and gives what it read and the rest, or says what is wrong. -/
abbrev Reader (α : Type) := List Char → Except Fault (α × List Char)

end ExportLint.Json

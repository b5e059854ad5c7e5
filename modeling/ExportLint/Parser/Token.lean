import ExportLint.Tree
import ExportLint.Text.Span

/-!
Tokens of a source, and what can be wrong with a source.
-/

namespace ExportLint.Parser

/-- What a token is. Keywords are words: which words are reserved depends on where they stand. -/
inductive TokenKind where
  /-- The end of the text. -/
  | done
  /-- A name or a keyword; `escaped` says that an escape is in it. -/
  | word (name : String) (escaped : Bool)
  /-- A name after a number sign. -/
  | hidden (name : String)
  | mark (text : String)
  /-- A string; `lossy` says that a surrogate stands alone in it. -/
  | string (value : String) (lossy : Bool)
  | number (value : Numeral)
  | bigint (digits : String)
  /-- A stretch of a template; `last` says that the template ends with it. -/
  | chunk (raw : String) (cooked? : Option String) (last : Bool)
  | regexp
  /-- Text between markup. -/
  | markupText
deriving DecidableEq, Repr, Inhabited

structure Token where
  kind : TokenKind
  span : Span
  /-- Whether a line ends between this token and the one before. -/
  newline : Bool
deriving DecidableEq, Repr, Inhabited

inductive Fault where
  | unexpected
  | unterminated
  | badCharacter
  | badEscape
  | badNumber
  | badFlags
  | badTarget
  | escapedKeyword
  | misplaced
  | mixed
  | repeated
  | repeatedExport
  | missing
  | tooDeep
deriving DecidableEq, Repr, Inhabited

structure SyntaxError where
  fault : Fault
  offset : Nat
deriving DecidableEq, Repr, Inhabited

namespace Fault

def message : Fault → String
  | unexpected => "Unexpected token"
  | unterminated => "Unterminated literal or comment"
  | badCharacter => "Invalid character"
  | badEscape => "Invalid escape sequence"
  | badNumber => "Invalid number"
  | badFlags => "Invalid flags of a regular expression"
  | badTarget => "Cannot assign to this expression"
  | escapedKeyword => "Keywords cannot contain escapes"
  | misplaced => "Not allowed here"
  | mixed => "Needs parentheses"
  | repeated => "Given more than once"
  | repeatedExport => "Exported more than once"
  | missing => "Something is missing here"
  | tooDeep => "Nested too deeply"

end Fault

namespace SyntaxError

def message (e : SyntaxError) : String :=
  e.fault.message ++ " at byte " ++ toString e.offset

end SyntaxError

end ExportLint.Parser

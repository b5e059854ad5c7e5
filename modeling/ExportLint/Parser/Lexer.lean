import ExportLint.Parser.Token
import ExportLint.Parser.Escape

/-!
Lexing: what one token is. A lexer takes the text from the beginning of a token on and gives the
kind of the token, the number of its bytes and the rest of the text.
-/

namespace ExportLint.Parser

open Text (byteLength isIdStart isIdContinue)

structure Lexeme where
  kind : TokenKind
  bytes : Nat
  rest : List Char
deriving Inhabited

abbrev Lexer := List Char → Except Fault Lexeme

/-! ### Blanks and comments -/

def isBlank (c : Char) : Bool :=
  c == ' ' || c == '\t' || c == '\x0b' || c == '\x0c' || c == '\x85' || c == '\xa0'
    || c == '\u1680' || ('\u2000' ≤ c && c ≤ '\u200b') || c == '\u202f' || c == '\u205f'
    || c == '\u3000' || c == '\ufeff'

/-- Where skipping is: in code, in a comment up to the line end, in a comment up to its end. -/
inductive Skipping where
  | code
  | line
  | block

structure Skipped where
  bytes : Nat
  newline : Bool
  rest : List Char

def skipFrom (bytes : Nat) (newline : Bool) : Skipping → List Char → Except Fault Skipped
  | .block, [] => .error .unterminated
  | _, [] => .ok ⟨bytes, newline, []⟩
  | .code, '/' :: '/' :: cs => skipFrom (bytes + 2) newline .line cs
  | .code, '/' :: '*' :: cs => skipFrom (bytes + 2) newline .block cs
  | .code, c :: cs =>
    if isLineEnd c then skipFrom (bytes + c.utf8Size) true .code cs
    else if isBlank c then skipFrom (bytes + c.utf8Size) newline .code cs
    else .ok ⟨bytes, newline, c :: cs⟩
  | .line, c :: cs =>
    if isLineEnd c then skipFrom (bytes + c.utf8Size) true .code cs
    else skipFrom (bytes + c.utf8Size) newline .line cs
  | .block, '*' :: '/' :: cs => skipFrom (bytes + 2) newline .code cs
  | .block, c :: cs => skipFrom (bytes + c.utf8Size) (newline || isLineEnd c) .block cs

def skip (cs : List Char) : Except Fault Skipped :=
  skipFrom 0 false .code cs

/-! ### Names -/

/-- The rest of a name, added to `acc`, which is reversed. -/
def nameFrom : Nat → Nat → Bool → List Char → List Char →
    Except Fault (String × Bool × Nat × List Char)
  | 0, bytes, escaped, acc, cs => .ok (String.ofList acc.reverse, escaped, bytes, cs)
  | fuel + 1, bytes, escaped, acc, cs =>
    match cs with
    | '\\' :: 'u' :: rest =>
      match singlePoint? rest with
      | some (n, rest') =>
        let c := Char.ofNat n
        let valid := if acc.isEmpty then isIdStart c else isIdContinue c
        if valid ∧ c.toNat = n then
          let taken := byteLength (rest.take (rest.length - rest'.length))
          nameFrom fuel (bytes + 2 + taken) true (c :: acc) rest'
        else .error .badEscape
      | none => .error .badEscape
    | '\\' :: _ => .error .badEscape
    | c :: rest =>
      if (if acc.isEmpty then isIdStart c else isIdContinue c) then
        nameFrom fuel (bytes + c.utf8Size) escaped (c :: acc) rest
      else .ok (String.ofList acc.reverse, escaped, bytes, cs)
    | [] => .ok (String.ofList acc.reverse, escaped, bytes, [])

def name (cs : List Char) : Except Fault (String × Bool × Nat × List Char) := do
  let (s, escaped, bytes, rest) ← nameFrom cs.length 0 false [] cs
  if s.isEmpty then .error .badCharacter else return (s, escaped, bytes, rest)

/-! ### Numbers -/

def separated : List Char → Bool
  | [] => true
  | '_' :: '_' :: _ => false
  | ['_'] => false
  | _ :: cs => separated cs

/-- The digits at the beginning of a text, without the underscores between them, and the number of
characters they take. -/
def digitsOf (isDigit : Char → Bool) (cs : List Char) : Except Fault (List Char × Nat) :=
  let taken := cs.takeWhile fun c => isDigit c || c == '_'
  if taken.head? = some '_' ∨ !separated taken then .error .badNumber
  else .ok (taken.filter (· != '_'), taken.length)

def radixValue (radix : Nat) (ds : List Char) : Nat :=
  ds.foldl (fun n d => n * radix + (Json.hexValue? d).getD 0) 0

def endNumber (kind : TokenKind) (bytes : Nat) (rest : List Char) : Except Fault Lexeme :=
  match rest with
  | c :: _ =>
    if isIdStart c || c.isDigit || c == '\\' then .error .badNumber else .ok ⟨kind, bytes, rest⟩
  | [] => .ok ⟨kind, bytes, rest⟩

/-- An integer, or a big integer if an `n` follows. -/
def integer (value bytes : Nat) : List Char → Except Fault Lexeme
  | 'n' :: rest => endNumber (.bigint (toString value)) (bytes + 1) rest
  | rest => endNumber (.number (.ofNat value)) bytes rest

def radixNumber (radix : Nat) (cs : List Char) : Except Fault Lexeme := do
  let isDigit (c : Char) : Bool := (Json.hexValue? c).any (· < radix)
  let (ds, taken) ← digitsOf isDigit cs
  if ds.isEmpty then .error .badNumber
  else integer (radixValue radix ds) (taken + 2) (cs.drop taken)

def exponentOf : List Char → Except Fault (Int × Nat)
  | c :: cs =>
    if c = 'e' ∨ c = 'E' then
      let (negative, signs, cs) : Bool × Nat × List Char := match cs with
        | '+' :: cs => (false, 1, cs)
        | '-' :: cs => (true, 1, cs)
        | cs => (false, 0, cs)
      match digitsOf Char.isDigit cs with
      | .ok (ds, taken) =>
        let value : Int := radixValue 10 ds
        if ds.isEmpty then .error .badNumber
        else .ok (if negative then -value else value, taken + signs + 1)
      | .error fault => .error fault
    else .ok (0, 0)
  | [] => .ok (0, 0)

/-- The number `digits * 10 ^ e`. -/
def decimalValue (digits : List Char) (e : Int) : TokenKind :=
  .number (.finite (radixValue 10 digits) e)

def decimalFrom (whole : List Char) (bytes : Nat) (cs : List Char) : Except Fault Lexeme := do
  let (fraction, taken) ← match cs with
    | '.' :: cs => (digitsOf Char.isDigit cs).map fun (ds, n) => (ds, n + 1)
    | _ => pure ([], 0)
  let cs := cs.drop taken
  let (e, more) ← exponentOf cs
  endNumber (decimalValue (whole ++ fraction) (e - fraction.length)) (bytes + taken + more)
    (cs.drop more)

/-- An exponent right behind the digits of a number that begins with a zero. Anything may follow
it. -/
def scaledFrom (whole : List Char) (bytes : Nat) (cs : List Char) : Except Fault Lexeme := do
  let (e, more) ← exponentOf cs
  return ⟨decimalValue whole e, bytes + more, cs.drop more⟩

/-- A number that begins with a zero and another digit. It is octal if its digits are, and has then
neither a point nor an exponent. -/
def zeroNumber (cs : List Char) : Except Fault Lexeme :=
  let ds := cs.takeWhile Char.isDigit
  let rest := cs.dropWhile Char.isDigit
  if ds.all isOctal then endNumber (.number (.ofNat (octalValue ds))) ds.length rest
  else
    match rest with
    | '.' :: _ => decimalFrom ds ds.length rest
    | 'e' :: _ => scaledFrom ds ds.length rest
    | _ => endNumber (decimalValue ds 0) ds.length rest

def number : Lexer := fun cs =>
  match cs with
  | '0' :: c :: rest =>
    if c = 'x' ∨ c = 'X' then radixNumber 16 rest
    else if c = 'o' ∨ c = 'O' then radixNumber 8 rest
    else if c = 'b' ∨ c = 'B' then radixNumber 2 rest
    else if c = 'e' ∨ c = 'E' then scaledFrom ['0'] 1 (c :: rest)
    else if c.isDigit then zeroNumber cs
    else if c = 'n' then endNumber (.bigint "0") 2 rest
    else decimalFrom ['0'] 1 (c :: rest)
  | _ => do
    let (ds, taken) ← digitsOf Char.isDigit cs
    let rest := cs.drop taken
    match rest with
    | 'n' :: _ => integer (radixValue 10 ds) taken rest
    | _ => decimalFrom ds taken rest

/-! ### Strings, templates, regular expressions -/

def stringBody (quote : Char) (acc : List Char) : List Char → Option (List Char × List Char)
  | [] => none
  | '\\' :: '\r' :: '\n' :: cs => stringBody quote ('\n' :: '\r' :: '\\' :: acc) cs
  | '\\' :: c :: cs => stringBody quote (c :: '\\' :: acc) cs
  | c :: cs =>
    if c = quote then some (acc.reverse, cs)
    else if c = '\n' ∨ c = '\r' then none
    else stringBody quote (c :: acc) cs

def string (quote : Char) (cs : List Char) : Except Fault Lexeme :=
  match stringBody quote [] cs with
  | none => .error .unterminated
  | some (body, rest) =>
    match cookString? body with
    | some (value, lossy) => .ok ⟨.string value lossy, byteLength body + 2, rest⟩
    | none => .error .badEscape

/-- The text of a template up to its end or to a substitution, and whether it is its end. -/
def chunkBody (acc : List Char) : List Char → Option (List Char × Bool × List Char)
  | [] => none
  | '\x60' :: cs => some (acc.reverse, true, cs)
  | '$' :: '\x7b' :: cs => some (acc.reverse, false, cs)
  | '\\' :: c :: cs => chunkBody (c :: '\\' :: acc) cs
  | c :: cs => chunkBody (c :: acc) cs

def chunk (cs : List Char) : Except Fault Lexeme :=
  match chunkBody [] cs with
  | none => .error .unterminated
  | some (body, last, rest) =>
    let raw := unifyLines body
    .ok ⟨.chunk (String.ofList raw) (cookTemplate? raw) last,
      byteLength body + (if last then 2 else 3), rest⟩

/-- The body of a regular expression up to its closing slash; a slash in a class does not close
it. -/
def regexpBody (bytes : Nat) (inClass : Bool) : List Char → Option (Nat × List Char)
  | [] => none
  | '\\' :: c :: cs =>
    if isLineEnd c then none else regexpBody (bytes + 1 + c.utf8Size) inClass cs
  | c :: cs =>
    if isLineEnd c then none
    else if c = '/' ∧ !inClass then some (bytes + 1, cs)
    else regexpBody (bytes + c.utf8Size) (if c = '[' then true else if c = ']' then false
      else inClass) cs

def knownFlags : List Char → Bool
  | [] => true
  | c :: cs => "dgimsuvy".toList.contains c && !cs.contains c && knownFlags cs

/-- The flags of a regular expression. Two of them exclude each other. -/
def validFlags (flags : List Char) : Bool :=
  knownFlags flags && !(flags.contains 'u' && flags.contains 'v')

def regexp (cs : List Char) : Except Fault Lexeme :=
  match regexpBody 1 false cs with
  | none => .error .unterminated
  | some (bytes, rest) =>
    let flags := rest.takeWhile fun c => c.isAlphanum || c == '$' || c == '_'
    if validFlags flags then .ok ⟨.regexp, bytes + flags.length, rest.drop flags.length⟩
    else .error .badFlags

/-! ### Marks -/

/-- The marks, a longer one before those it begins with. A `>` is always a token of its own: whether
it goes on depends on where it stands. -/
def marks : List (List Char) :=
  ["...", "<<=", "===", "!==", "**=", "&&=", "||=", "??=", "<<", "<=", "==", "=>", "!=", "++", "+=",
    "--", "-=", "**", "*=", "/=", "%=", "&&", "&=", "||", "|=", "^=", "??", "?.", "\x7b", "\x7d",
    "(", ")", "[", "]", ".", ";", ",", "<", ">", "=", "!", "+", "-", "*", "/", "%", "&", "|", "^",
    "~", "?", ":", "@"].map String.toList

/-- The mark at the beginning of a text. A question mark and the point of a number are two
tokens. -/
def mark? (cs : List Char) : Option (List Char) :=
  match cs with
  | '?' :: '.' :: d :: _ => if d.isDigit then some ['?'] else some ['?', '.']
  | _ => marks.find? (·.isPrefixOf cs)

/-- The marks that a `>` can be the beginning of. -/
def greaterMarks : List (List Char) :=
  [">>>=", ">>>", ">>=", ">>", ">=", ">"].map String.toList

def ofMark (m cs : List Char) : Lexeme :=
  ⟨.mark (String.ofList m), m.length, cs.drop m.length⟩

/-! ### Any token -/

/-- The token that a text without leading blanks begins with. A slash is a division. -/
def token : Lexer := fun cs =>
  match cs with
  | [] => .ok ⟨.done, 0, []⟩
  | '"' :: rest => string '"' rest
  | '\x27' :: rest => string '\x27' rest
  | '\x60' :: rest => chunk rest
  | '#' :: rest => do
    let (s, _, bytes, rest) ← name rest
    return ⟨.hidden s, bytes + 1, rest⟩
  | c :: rest =>
    if c.isDigit || (c == '.' && rest.head?.any Char.isDigit) then number cs
    else if isIdStart c || c == '\\' then do
      let (s, escaped, bytes, rest) ← name cs
      return ⟨.word s escaped, bytes, rest⟩
    else
      match mark? cs with
      | some m => .ok (ofMark m cs)
      | none => .error .badCharacter

/-! ### Markup -/

def markupText (bytes : Nat) : List Char → Except Fault Lexeme
  | [] => .error .unterminated
  | c :: cs =>
    if c = '<' ∨ c = '\x7b' then .ok ⟨.markupText, bytes, c :: cs⟩
    else if c = '>' ∨ c = '\x7d' then .error .unexpected
    else markupText (bytes + c.utf8Size) cs

def markupChild : Lexer := fun cs =>
  match cs with
  | '<' :: rest => .ok ⟨.mark "<", 1, rest⟩
  | '\x7b' :: rest => .ok ⟨.mark "\x7b", 1, rest⟩
  | cs => markupText 0 cs

def markupName (bytes : Nat) (acc : List Char) : List Char → String × Nat × List Char
  | [] => (String.ofList acc.reverse, bytes, [])
  | c :: cs =>
    if isIdContinue c || c == '-' then markupName (bytes + c.utf8Size) (c :: acc) cs
    else (String.ofList acc.reverse, bytes, c :: cs)

def attributeString (quote : Char) (cs : List Char) : Except Fault Lexeme :=
  let body := cs.takeWhile (· != quote)
  match cs.dropWhile (· != quote) with
  | _ :: rest => .ok ⟨.string (String.ofList body) false, byteLength body + 2, rest⟩
  | [] => .error .unterminated

end ExportLint.Parser

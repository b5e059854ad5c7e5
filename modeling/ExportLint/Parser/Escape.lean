import ExportLint.Json.Scalar
import ExportLint.Text.Identifier

/-!
Escape sequences of names, strings and templates.
-/

namespace ExportLint.Parser

open Json (hexValue? hex4? isLeading isTrailing pairValue)

/-- What a string is made of: characters, and surrogates that stand alone. -/
inductive StringUnit where
  | char (c : Char)
  | lone (surrogate : Nat)
deriving DecidableEq, Repr, Inhabited

def replacement : Char := '\uFFFD'

def hexText (n : Nat) : List Char :=
  let digits := Nat.toDigits 16 n
  List.replicate (4 - digits.length) '0' ++ digits

def isLossy (units : List StringUnit) : Bool :=
  units.any fun
    | .lone _ => true
    | .char _ => false

/-- The text of a string. If a surrogate stands alone in it, each such is written as the replacement
character and its four digits, and a replacement character likewise. -/
def unitsText (units : List StringUnit) : String :=
  let lossy := isLossy units
  String.ofList <| units.flatMap fun
    | .lone n => replacement :: hexText n
    | .char c => if lossy ∧ c = replacement then replacement :: hexText c.toNat else [c]

def unitOf (n : Nat) : StringUnit :=
  if isLeading n || isTrailing n then .lone n else .char (Char.ofNat n)

def hexNumber? (ds : List Char) : Option Nat :=
  if ds.isEmpty then none
  else ds.foldl (fun n? d => do
    let n ← n?
    let v ← hexValue? d
    let m := n * 16 + v
    if m ≤ 0x10FFFF then some m else none) (some 0)

/-- The code point of an escape in braces, from behind the opening brace on. -/
def braced? (cs : List Char) : Option (Nat × List Char) :=
  match cs.dropWhile (· != '\x7d') with
  | _ :: rest => (hexNumber? (cs.takeWhile (· != '\x7d'))).map (·, rest)
  | [] => none

/-- The code point of a single `u` escape, from behind the `u` on. -/
def singlePoint? : List Char → Option (Nat × List Char)
  | '\x7b' :: cs => braced? cs
  | a :: b :: c :: d :: cs => (hex4? a b c d).map (·, cs)
  | _ => none

/-- The code point of a `u` escape, from behind the `u` on. Two escapes of surrogates that form a
pair are one code point. -/
def codePoint? (cs : List Char) : Option (Nat × List Char) := do
  let (n, rest) ← singlePoint? cs
  match cs, rest with
  | '\x7b' :: _, _ => some (n, rest)
  | _, '\\' :: 'u' :: e :: f :: g :: h :: rest' =>
    match isLeading n, hex4? e f g h with
    | true, some m => if isTrailing m then some ((pairValue n m).toNat, rest') else some (n, rest)
    | _, _ => some (n, rest)
  | _, _ => some (n, rest)

def isLineEnd (c : Char) : Bool :=
  c == '\n' || c == '\r' || c == '\u2028' || c == '\u2029'

def isOctal (c : Char) : Bool := '0' ≤ c && c ≤ '7'

def octalValue (ds : List Char) : Nat :=
  ds.foldl (fun n d => n * 8 + (d.toNat - '0'.toNat)) 0

/-- An octal escape: up to three digits that write a number of eight bits. -/
def octal (c : Char) (cs : List Char) : Nat × List Char :=
  let ds := cs.takeWhile isOctal
  let ds := c :: ds.take (if c ≤ '3' then 2 else 1)
  (octalValue ds, cs.drop (ds.length - 1))

/-- The units of an escape, from behind the backslash on. Octal escapes are for strings only. -/
def escape? (octals : Bool) : List Char → Option (List StringUnit × List Char)
  | [] => none
  | 'n' :: cs => some ([.char '\n'], cs)
  | 't' :: cs => some ([.char '\t'], cs)
  | 'r' :: cs => some ([.char '\r'], cs)
  | 'b' :: cs => some ([.char '\x08'], cs)
  | 'f' :: cs => some ([.char '\x0c'], cs)
  | 'v' :: cs => some ([.char '\x0b'], cs)
  | 'x' :: a :: b :: cs => do
    let a ← hexValue? a
    let b ← hexValue? b
    some ([.char (Char.ofNat (a * 16 + b))], cs)
  | 'x' :: _ => none
  | 'u' :: cs => (codePoint? cs).map fun (n, cs) => ([unitOf n], cs)
  | '\r' :: '\n' :: cs => some ([], cs)
  | c :: cs =>
    if isLineEnd c then some ([], cs)
    else if !c.isDigit then some ([.char c], cs)
    else if octals then
      if isOctal c then
        let (n, cs) := octal c cs
        some ([.char (Char.ofNat n)], cs)
      else some ([.char c], cs)
    else if c = '0' ∧ !(cs.head?.any Char.isDigit) then some ([.char '\x00'], cs)
    else none

/-- Resolves the escapes of a text; none if one is not valid. A text has at most as many escapes as
characters. -/
def cookFrom (octals : Bool) : Nat → List StringUnit → List Char → Option (List StringUnit)
  | 0, acc, _ => some acc.reverse
  | fuel + 1, acc, cs =>
    match cs with
    | [] => some acc.reverse
    | '\\' :: cs => do
      let (units, cs) ← escape? octals cs
      cookFrom octals fuel (units.reverse ++ acc) cs
    | c :: cs => cookFrom octals fuel (.char c :: acc) cs

/-- The text of a string literal between its quotes, and whether a surrogate stands alone in it. -/
def cookString? (cs : List Char) : Option (String × Bool) :=
  (cookFrom true (cs.length + 1) [] cs).map fun units => (unitsText units, isLossy units)

def cookTemplate? (cs : List Char) : Option String :=
  (cookFrom false (cs.length + 1) [] cs).map unitsText

/-- Line ends of a template: a carriage return, with or without a line feed, is a line feed. -/
def unifyLines : List Char → List Char
  | [] => []
  | '\r' :: '\n' :: cs => '\n' :: unifyLines cs
  | '\r' :: cs => '\n' :: unifyLines cs
  | c :: cs => c :: unifyLines cs

end ExportLint.Parser

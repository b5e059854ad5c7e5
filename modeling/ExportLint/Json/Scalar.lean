import ExportLint.Json.Fault
import ExportLint.Binary64
import ExportLint.Text.Span

/-!
Blanks, words, strings and numbers of JSON. Each can be read for its value, or only be passed over;
the latter asks less of it.
-/

namespace ExportLint.Json

inductive Care where
  | full
  | passing
deriving DecidableEq, Repr, Inhabited

def isBlank (c : Char) : Bool :=
  c == ' ' || c == '\n' || c == '\t' || c == '\r'

def skipBlank (cs : List Char) : List Char :=
  cs.dropWhile isBlank

def word : List Char → List Char → Except Fault (List Char)
  | [], cs => .ok cs
  | _ :: _, [] => .error .endInValue
  | w :: ws, c :: cs => if c = w then word ws cs else .error .expectedWord

/-! ### Strings -/

def hexValue? (c : Char) : Option Nat :=
  if c.isDigit then some (c.toNat - '0'.toNat)
  else if 'a' ≤ c ∧ c ≤ 'f' then some (c.toNat - 'a'.toNat + 10)
  else if 'A' ≤ c ∧ c ≤ 'F' then some (c.toNat - 'A'.toNat + 10)
  else none

def hex4? (a b c d : Char) : Option Nat := do
  let a ← hexValue? a
  let b ← hexValue? b
  let c ← hexValue? c
  let d ← hexValue? d
  return ((a * 16 + b) * 16 + c) * 16 + d

/-- What is wrong where four hexadecimal digits should stand: the text ends before them, or one is
no digit. -/
def hexFault (cs : List Char) : Fault :=
  if Text.byteLength cs < 4 then .endInString else .invalidEscape

def isLeading (n : Nat) : Bool := 0xD800 ≤ n && n < 0xDC00

def isTrailing (n : Nat) : Bool := 0xDC00 ≤ n && n < 0xE000

def pairValue (lead trail : Nat) : Char :=
  Char.ofNat ((lead - 0xD800) * 0x400 + (trail - 0xDC00) + 0x10000)

def simpleEscape? : Char → Option Char
  | '"' => some '"'
  | '\\' => some '\\'
  | '/' => some '/'
  | 'b' => some '\x08'
  | 'f' => some '\x0c'
  | 'n' => some '\n'
  | 'r' => some '\r'
  | 't' => some '\t'
  | _ => none

/-- The rest of a string whose opening quote has been read, added to `acc`, which is reversed. -/
def stringFrom (acc : List Char) : Reader String
  | [] => .error .endInString
  | '"' :: cs => .ok (String.ofList acc.reverse, cs)
  | '\\' :: 'u' :: a :: b :: c :: d :: cs =>
    match hex4? a b c d with
    | none => .error (hexFault (a :: b :: c :: d :: cs))
    | some n =>
      if isTrailing n then .error .unpairedSurrogate
      else if isLeading n then
        match cs with
        | [] => .error .endInString
        | ['\\'] => .error .endInString
        | '\\' :: 'u' :: e :: f :: g :: h :: cs =>
          match hex4? e f g h with
          | none => .error (hexFault (e :: f :: g :: h :: cs))
          | some m =>
            if isTrailing m then stringFrom (pairValue n m :: acc) cs
            else .error .unpairedSurrogate
        | '\\' :: 'u' :: cs => .error (hexFault cs)
        | _ => .error .unfinishedPair
      else stringFrom (Char.ofNat n :: acc) cs
  | '\\' :: 'u' :: cs => .error (hexFault cs)
  | ['\\'] => .error .endInString
  | '\\' :: e :: cs =>
    match simpleEscape? e with
    | some c => stringFrom (c :: acc) cs
    | none => .error .invalidEscape
  | c :: cs => if c < ' ' then .error .controlCharacter else stringFrom (c :: acc) cs

def string : Reader String := stringFrom []

/-- Passes over a string whose opening quote has been read. Surrogates need not be paired. -/
def passString : List Char → Except Fault (List Char)
  | [] => .error .endInString
  | '"' :: cs => .ok cs
  | '\\' :: 'u' :: a :: b :: c :: d :: cs =>
    match hex4? a b c d with
    | none => .error (hexFault (a :: b :: c :: d :: cs))
    | some _ => passString cs
  | '\\' :: 'u' :: cs => .error (hexFault cs)
  | ['\\'] => .error .endInString
  | '\\' :: e :: cs => if (simpleEscape? e).isSome then passString cs else .error .invalidEscape
  | c :: cs => if c < ' ' then .error .controlCharacter else passString cs

/-! ### Numbers -/

-- powers are those of core, also where a power of monoids is in scope
attribute [local instance (high)] instPowNat

structure NumberText where
  negative : Bool
  integer : List Char
  fraction? : Option (List Char)
  /-- The sign of the exponent and its digits. -/
  exponent? : Option (Bool × List Char)
deriving DecidableEq, Repr, Inhabited

/-- The value of a number: an integer of 64 bits if it is written as one and fits, otherwise
binary64. -/
inductive NumberValue where
  | natural (n : Nat)
  /-- The integer `-n`. -/
  | negative (n : Nat)
  | real (negative : Bool) (magnitude : Binary64)
deriving DecidableEq, Repr, Inhabited

/-- One or more digits. `atEnd` is the fault if the text ends before the first. -/
def digits1 (atEnd : Fault) : Reader (List Char)
  | [] => .error atEnd
  | c :: cs =>
    if c.isDigit then .ok (c :: cs.takeWhile Char.isDigit, cs.dropWhile Char.isDigit)
    else .error .invalidNumber

def integerPart (atEnd : Fault) : Reader (List Char)
  | '0' :: cs =>
    if (cs.head?.map Char.isDigit).getD false then .error .invalidNumber else .ok (['0'], cs)
  | cs => digits1 atEnd cs

def exponentPart (atEnd : Fault) : Reader (Option (Bool × List Char))
  | c :: cs =>
    if c = 'e' ∨ c = 'E' then
      let (sign, cs) : Bool × List Char := match cs with
        | '+' :: cs => (false, cs)
        | '-' :: cs => (true, cs)
        | cs => (false, cs)
      match digits1 atEnd cs with
      | .ok (ds, cs) => .ok (some (sign, ds), cs)
      | .error fault => .error fault
    else .ok (none, c :: cs)
  | [] => .ok (none, [])

def fractionPart (atEnd : Fault) : Reader (Option (List Char))
  | '.' :: cs =>
    match digits1 atEnd cs with
    | .ok (ds, cs) => .ok (some ds, cs)
    | .error fault => .error fault
  | cs => .ok (none, cs)

/-- A number, from its sign on. A number that is passed over is invalid, and not unfinished, where
the text ends in it. -/
def numberText (care : Care) (cs : List Char) : Except Fault (NumberText × List Char) := do
  let atEnd := match care with
    | .full => Fault.endInValue
    | .passing => Fault.invalidNumber
  let (negative, cs) : Bool × List Char := match cs with
    | '-' :: cs => (true, cs)
    | cs => (false, cs)
  let (integer, cs) ← integerPart atEnd cs
  let (fraction?, cs) ← fractionPart atEnd cs
  let (exponent?, cs) ← exponentPart atEnd cs
  return (⟨negative, integer, fraction?, exponent?⟩, cs)

def digitValue (c : Char) : Nat := c.toNat - '0'.toNat

def maxNatural : Nat := 2 ^ (64 : Nat) - 1

/-- Appends digits to a number as long as it fits 64 bits; the digits left over come second. -/
def absorb : Nat → List Char → Nat × List Char
  | n, [] => (n, [])
  | n, d :: ds =>
    let m := n * 10 + digitValue d
    if m ≤ maxNatural then absorb m ds else (n, d :: ds)

/-- Divides `x` by `10 ^ k`, in steps of at most 308 decimal places, each rounded. -/
def scaleDown : Nat → Binary64 → Nat → Binary64
  | 0, _, _ => Binary64.zero
  | fuel + 1, x, k =>
    if k ≤ 308 then x.div (Binary64.pow10 k)
    else if x.isZero then x
    else scaleDown fuel (x.div (Binary64.pow10 308)) (k - 308)

/-- The number `n * 10 ^ e`, for an `n` of 64 bits. After three steps down nothing is left of
one. -/
def scaled (n : Nat) (e : Int) : Except Fault Binary64 :=
  let x := (Binary64.ofRatio? n 1).getD Binary64.zero
  if e < 0 then .ok (scaleDown 4 x (-e).toNat)
  else if 308 < e then if x.isZero then .ok x else .error .outOfRange
  else
    match x.mul? (Binary64.pow10 e.toNat) with
    | some y => .ok y
    | none => .error .outOfRange

def maxExponent : Nat := 2 ^ (31 : Nat) - 1

/-- The value of a number. Of more digits than fit 64 bits, those of the integer part count by their
places and those of the fraction not at all. -/
def NumberText.value (t : NumberText) : Except Fault NumberValue :=
  let (n, left) := absorb 0 t.integer
  match left, t.fraction?, t.exponent? with
  | [], none, none =>
    if !t.negative then .ok (.natural n)
    else if 0 < n ∧ n ≤ 2 ^ (63 : Nat) then .ok (.negative n)
    else .ok (.real true ((Binary64.ofRatio? n 1).getD Binary64.zero))
  | _, _, _ => do
    let fraction := t.fraction?.getD []
    let (n, rest) := absorb n fraction
    let places : Int := left.length - ((fraction.length - rest.length : Nat) : Int)
    let (down, ds) := t.exponent?.getD (false, [])
    let e := (ds.map digitValue).foldl (fun e d => e * 10 + d) 0
    if maxExponent < e then
      if n ≠ 0 ∧ !down then .error .outOfRange else .ok (.real t.negative Binary64.zero)
    else
      let x ← scaled n (if down then places - e else places + e)
      return .real t.negative x

def number (cs : List Char) : Except Fault (NumberValue × List Char) := do
  let (text, cs) ← numberText .full cs
  return (← text.value, cs)

end ExportLint.Json

import ExportLint.Json.Scalar

/-!
Passing over whole JSON values. The brackets that are open are kept in a list, so values may be
nested to any depth. With full care values are held to the limits of values that are read: the
depth, the range of numbers, the pairing of surrogates.
-/

namespace ExportLint.Json

inductive Bracket where
  | list
  | object
deriving DecidableEq, Repr, Inhabited

inductive Expecting where
  | value
  /-- The first item of the innermost bracket, or its end. -/
  | first
  /-- The end of a value has been reached: a further item of the innermost bracket, or its end. -/
  | next
deriving DecidableEq, Repr, Inhabited

structure Place where
  expecting : Expecting
  /-- The open brackets, innermost first. -/
  opened : List Bracket
  rest : List Char
deriving DecidableEq, Repr, Inhabited

/-- The number of brackets that can be open at once in a value that is read. -/
def maxDepth : Nat := 125

def closing : Bracket → Char
  | .list => ']'
  | .object => '\x7d'

def endFault : Bracket → Fault
  | .list => .endInList
  | .object => .endInObject

def commaFault : Bracket → Fault
  | .list => .expectedCommaOrBracket
  | .object => .expectedCommaOrBrace

def pastString (care : Care) (cs : List Char) : Except Fault (List Char) :=
  match care with
  | .full => (string cs).map Prod.snd
  | .passing => passString cs

def pastNumber (care : Care) (cs : List Char) : Except Fault (List Char) :=
  match care with
  | .full => (number cs).map Prod.snd
  | .passing => (numberText .passing cs).map Prod.snd

def pastColon (cs : List Char) : Except Fault (List Char) :=
  match skipBlank cs with
  | ':' :: cs => .ok cs
  | [] => .error .endInObject
  | _ => .error .expectedColon

def pastKey (care : Care) (cs : List Char) : Except Fault (List Char) :=
  pastString care cs >>= pastColon

def afterComma (care : Care) (innermost : Bracket) (cs : List Char) : Except Fault (List Char) :=
  match innermost, care, skipBlank cs with
  | .list, .full, [] => .error .endInValue
  | .list, .full, ']' :: _ => .error .trailingComma
  | .list, _, cs => .ok cs
  | .object, _, '"' :: cs => pastKey care cs
  | .object, .full, [] => .error .endInValue
  | .object, .full, '\x7d' :: _ => .error .trailingComma
  | .object, .passing, [] => .error .endInObject
  | .object, _, _ :: _ => .error .keyNotString

def afterOpening (care : Care) (innermost : Bracket) (cs : List Char) : Except Fault (List Char) :=
  match innermost, cs with
  | .list, cs => .ok cs
  | .object, '"' :: cs => pastKey care cs
  | .object, _ => .error .keyNotString

def openBracket (care : Care) (b : Bracket) (p : Place) (cs : List Char) : Except Fault Place :=
  if care = .full ∧ maxDepth ≤ p.opened.length then .error .tooDeep
  else .ok ⟨.first, b :: p.opened, cs⟩

def passItem (care : Care) (p : Place) : Except Fault Place :=
  let past (cs : Except Fault (List Char)) : Except Fault Place :=
    cs.map fun cs => ⟨.next, p.opened, cs⟩
  match skipBlank p.rest with
  | [] => .error .endInValue
  | 'n' :: cs => past (word ['u', 'l', 'l'] cs)
  | 't' :: cs => past (word ['r', 'u', 'e'] cs)
  | 'f' :: cs => past (word ['a', 'l', 's', 'e'] cs)
  | '"' :: cs => past (pastString care cs)
  | '[' :: cs => openBracket care .list p cs
  | '\x7b' :: cs => openBracket care .object p cs
  | c :: cs =>
    if c = '-' ∨ c.isDigit then past (pastNumber care (c :: cs)) else .error .expectedValue

def Place.step? (care : Care) (p : Place) : Except Fault (Option Place) :=
  match p.expecting, p.opened with
  | .value, _ => (passItem care p).map some
  | _, [] => .ok none
  | .first, b :: outer =>
    match skipBlank p.rest with
    | [] => .error (endFault b)
    | c :: cs =>
      if c = closing b then .ok (some ⟨.next, outer, cs⟩)
      else (afterOpening care b (c :: cs)).map fun cs => some ⟨.value, p.opened, cs⟩
  | .next, b :: outer =>
    match skipBlank p.rest with
    | [] => .error (endFault b)
    | c :: cs =>
      if c = closing b then .ok (some ⟨.next, outer, cs⟩)
      else if c = ',' then (afterComma care b cs).map fun cs => some ⟨.value, p.opened, cs⟩
      else .error (commaFault b)

/-- As many steps as a value takes, up to `fuel`. -/
def Place.run (care : Care) : Nat → Place → Except Fault (List Char)
  | 0, _ => .error .endInValue
  | fuel + 1, p =>
    match p.step? care with
    | .error fault => .error fault
    | .ok none => .ok p.rest
    | .ok (some p) => p.run care fuel

/-- Passes over a value. No two steps in a row leave the text as it is, so twice its length is
enough. -/
def passValue (care : Care) (cs : List Char) : Except Fault (List Char) :=
  Place.run care (2 * cs.length + 3) ⟨.value, [], cs⟩

end ExportLint.Json

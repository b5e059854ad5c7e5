/-!
Values of numeric literals, kept as exact decimals. The only question asked of one is whether it
is zero once rounded to a binary64 number.
-/

namespace ExportLint

/-- A numeric value: a decimal `mantissa * 10 ^ exponent`, or one of the two values no decimal
has. -/
inductive Numeral where
  | nan
  | infinite
  | finite (mantissa : Int) (exponent : Int)
deriving DecidableEq, Repr, Inhabited

namespace Numeral

-- powers are those of core, also where a power of monoids is in scope
attribute [local instance (high)] instPowNat

def ofNat (n : Nat) : Numeral := .finite n 0

/-- Whether `m / 10 ^ k` is at most `2 ^ (-1075)`, half of the smallest positive binary64 number:
exactly then it is rounded to zero, a tie going to the even neighbour. Where `k` alone shows it,
`10 ^ k` is not written out. -/
def underflows (m k : Nat) : Bool :=
  if m = 0 then true
  else if Nat.log2 m + 1200 < k then true
  else m * 2 ^ (1075 : Nat) ≤ 10 ^ k

def isZero : Numeral → Bool
  | .nan => false
  | .infinite => false
  | .finite m e => if 0 ≤ e then m == 0 else underflows m.natAbs (-e).toNat

def truthy (n : Numeral) : Bool :=
  n != .nan && !n.isZero

end Numeral

end ExportLint

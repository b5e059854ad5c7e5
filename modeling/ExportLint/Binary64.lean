/-!
Non-negative numbers of the binary64 format, as `mantissa * 2 ^ exponent`. Results are rounded to
the nearest number, a tie going to the even mantissa.
-/

namespace ExportLint

/-- The number `mantissa * 2 ^ exponent`. -/
structure Binary64 where
  mantissa : Nat
  exponent : Int
deriving DecidableEq, Repr, Inhabited

namespace Binary64

-- powers are those of core, also where a power of monoids is in scope
attribute [local instance (high)] instPowNat

/-- The numerator of the number as a fraction over `den`. -/
def num (x : Binary64) : Nat := x.mantissa * 2 ^ x.exponent.toNat

def den (x : Binary64) : Nat := 2 ^ (-x.exponent).toNat

def zero : Binary64 := ⟨0, -1074⟩

def isZero (x : Binary64) : Bool := x.mantissa == 0

/-- Rounds `n / d` to the nearest natural number, a tie going to the even one. -/
def roundDiv (n d : Nat) : Nat :=
  let q := n / d
  let r := n % d
  if 2 * r < d then q
  else if d < 2 * r then q + 1
  else q + q % 2

/-- The exponent `k` with `2 ^ k ≤ n / d < 2 ^ (k + 1)`. -/
def log2Ratio (n d : Nat) : Int :=
  let k : Int := (Nat.log2 n : Int) - Nat.log2 d
  if n * 2 ^ (-k).toNat < d * 2 ^ k.toNat then k - 1 else k

/-- The number nearest to `n / d`; none if that is beyond the largest number. -/
def ofRatio? (n d : Nat) : Option Binary64 :=
  if n = 0 then some zero
  else
    let e := max (-1074) (log2Ratio n d - 52)
    let m := roundDiv (n * 2 ^ (-e).toNat) (d * 2 ^ e.toNat)
    let x : Binary64 := if m = 2 ^ (53 : Nat) then ⟨2 ^ (52 : Nat), e + 1⟩ else ⟨m, e⟩
    if 971 < x.exponent then none else some x

def mul? (x y : Binary64) : Option Binary64 :=
  ofRatio? (x.num * y.num) (x.den * y.den)

def div (x y : Binary64) : Binary64 :=
  (ofRatio? (x.num * y.den) (x.den * y.num)).getD zero

/-- The number nearest to `10 ^ k`, for `k` up to 308. -/
def pow10 (k : Nat) : Binary64 :=
  (ofRatio? (10 ^ k) 1).getD zero

end Binary64

end ExportLint

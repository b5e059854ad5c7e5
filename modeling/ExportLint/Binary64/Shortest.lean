import ExportLint.Binary64

/-!
The shortest decimal that reads back as a given binary64 number and, of the shortest, the nearest.
-/

namespace ExportLint.Binary64

-- powers are those of core, also where a power of monoids is in scope
attribute [local instance (high)] instPowNat

/-- A number that lies between two ends, all three as numerators over one denominator. -/
structure Bracketed where
  low : Nat
  value : Nat
  high : Nat
  den : Nat
  /-- Whether the ends themselves round to the number. -/
  closed : Bool

/-- The decimals that round to a number: they reach half way to its neighbours. The neighbour below
a power of two is only half as far. -/
def bracket (x : Binary64) : Bracketed :=
  let scale : Int := x.exponent - 2
  let up := 2 ^ scale.toNat
  let below := if x.mantissa = 2 ^ (52 : Nat) ∧ -1074 < x.exponent then 1 else 2
  { low := (4 * x.mantissa - below) * up
    value := 4 * x.mantissa * up
    high := (4 * x.mantissa + 2) * up
    den := 2 ^ (-scale).toNat
    closed := x.mantissa % 2 = 0 }

/-- Whether `d * 10 ^ g` lies within the ends. -/
def Bracketed.holds (b : Bracketed) (d : Nat) (g : Int) : Bool :=
  let n := d * 10 ^ g.toNat * b.den
  let unit := 10 ^ (-g).toNat
  if b.closed then b.low * unit ≤ n && n ≤ b.high * unit
  else b.low * unit < n && n < b.high * unit

/-- A multiple of `10 ^ g` within the ends, the nearer to the number of the two around it. -/
def Bracketed.onGrid? (b : Bracketed) (g : Int) : Option Nat :=
  let n := b.value * 10 ^ (-g).toNat
  let unit := b.den * 10 ^ g.toNat
  let d := n / unit
  let below := b.holds d g
  let above := b.holds (d + 1) g
  if below && above then some (roundDiv n unit)
  else if below then some d
  else if above then some (d + 1)
  else none

/-- The first of `fuel` ever finer grids, from `10 ^ g` on, that has a hit. -/
def Bracketed.search (b : Bracketed) : Nat → Int → Nat × Int
  | 0, g => (0, g)
  | fuel + 1, g =>
    match b.onGrid? g with
    | some (d + 1) => (d + 1, g)
    | _ => b.search fuel (g - 1)

/-- The digits and the power of ten of the shortest decimal of a number that is not zero. No grid
coarser than `10 ^ 309` and none finer than `10 ^ (-324)` is needed. -/
def shortest (x : Binary64) : Nat × Int :=
  x.bracket.search 640 309

/-- A number as text: positional if its point stands at most sixteen digits to the right of the
first digit and at most five to the left of it, otherwise with an exponent and its sign. -/
def text (x : Binary64) : String :=
  if x.isZero then "0.0"
  else
    let (d, k) := x.shortest
    let digits := (Nat.toDigits 10 d).reverse.dropWhile (· == '0') |>.reverse
    let k := k + ((Nat.toDigits 10 d).length - digits.length : Nat)
    let point : Int := digits.length + k
    let zeros (n : Int) : List Char := List.replicate n.toNat '0'
    String.ofList <|
      if 0 ≤ k ∧ point ≤ 16 then digits ++ zeros k ++ ['.', '0']
      else if 0 < point ∧ point ≤ 16 then
        digits.take point.toNat ++ '.' :: digits.drop point.toNat
      else if -5 < point ∧ point ≤ 0 then ['0', '.'] ++ zeros (-point) ++ digits
      else
        let sign := if 0 < point then ['+'] else []
        let mark := 'e' :: sign ++ (toString (point - 1)).toList
        match digits with
        | [d] => d :: mark
        | d :: ds => d :: '.' :: ds ++ mark
        | [] => []

end ExportLint.Binary64

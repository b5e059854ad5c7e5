import ExportLint.Literal
import ExportLint.Lookup
import Mathlib.Data.Rat.Cast.Order
import Mathlib.Tactic.Positivity
import Mathlib.Tactic.Linarith

/-! What expressions stand for, as relations that parentheses do not disturb: a fixed text, an
object literal with entries, a literal that counts as true. -/

namespace ExportLint

namespace Numeral

/-- The value is nearest to zero among the binary64 numbers: it is at most half of the smallest
positive one. -/
def RoundsToZero : Numeral → Prop
  | .nan | .infinite => False
  | .finite m e => |(m : ℚ)| * 10 ^ e ≤ 2 ^ (-1075 : ℤ)

lemma underflows_iff (m k : ℕ) : underflows m k = true ↔ m * 2 ^ 1075 ≤ 10 ^ k := by
  unfold underflows
  split_ifs with hm hk
  · simp only [hm, Nat.zero_mul, Nat.zero_le]
  · have hlog : m < 2 ^ (m.log2 + 1) := Nat.lt_log2_self
    have hle : m * 2 ^ 1075 ≤ 10 ^ k := calc
      m * 2 ^ 1075 ≤ 2 ^ (m.log2 + 1) * 2 ^ 1075 := Nat.mul_le_mul_right _ hlog.le
      _ = 2 ^ (m.log2 + 1 + 1075) := (pow_add 2 _ _).symm
      _ ≤ 2 ^ k := Nat.pow_le_pow_right (by omega) (by omega)
      _ ≤ 10 ^ k := Nat.pow_le_pow_left (by omega) k
    exact iff_of_true rfl hle
  · -- the two powers agree for any exponent, which saves working out this one
    generalize 1075 = shift
    exact decide_eq_true_iff

lemma natural_roundsToZero_iff (m : ℤ) (e : ℤ) (he : 0 ≤ e) :
    (finite m e).RoundsToZero ↔ m = 0 := by
  have hsmall : (2 : ℚ) ^ (-1075 : ℤ) < 1 := zpow_lt_one_of_neg₀ (by norm_num) (by norm_num)
  constructor
  · intro h
    by_contra hm
    have habs : (1 : ℚ) ≤ |(m : ℚ)| := by exact_mod_cast Int.one_le_abs hm
    have hpow : (1 : ℚ) ≤ 10 ^ e := one_le_zpow₀ (by norm_num) he
    have hprod : (1 : ℚ) ≤ |(m : ℚ)| * 10 ^ e := one_le_mul_of_one_le_of_one_le habs hpow
    exact absurd (hprod.trans h) (not_le.mpr hsmall)
  · rintro rfl
    simp only [RoundsToZero, Int.cast_zero, abs_zero, zero_mul]
    exact zpow_nonneg (by norm_num) _

lemma fraction_roundsToZero_iff (m : ℤ) (k : ℕ) :
    (finite m (-k)).RoundsToZero ↔ m.natAbs * 2 ^ 1075 ≤ 10 ^ k := by
  have habs : |(m : ℚ)| = (m.natAbs : ℚ) := by rw [Nat.cast_natAbs, Int.cast_abs]
  have hten : (10 : ℚ) ^ (-(k : ℤ)) = 1 / 10 ^ k := by rw [zpow_neg, zpow_natCast, one_div]
  have htwo : (2 : ℚ) ^ (-1075 : ℤ) = 1 / 2 ^ 1075 := by
    rw [zpow_neg, one_div]
    norm_cast
  rw [RoundsToZero, habs, hten, htwo, mul_one_div, div_le_div_iff₀ (by positivity) (by positivity),
    one_mul]
  exact_mod_cast Iff.rfl

lemma isZero_iff (n : Numeral) : n.isZero = true ↔ n.RoundsToZero := by
  cases n with
  | nan => simp [isZero, RoundsToZero]
  | infinite => simp [isZero, RoundsToZero]
  | finite m e =>
    by_cases he : 0 ≤ e
    · rw [isZero, if_pos he, natural_roundsToZero_iff m e he, beq_iff_eq]
    · have hk : e = -((-e).toNat : ℤ) := by omega
      rw [isZero, if_neg he, underflows_iff]
      conv_rhs => rw [hk]
      rw [fraction_roundsToZero_iff]

lemma truthy_iff (n : Numeral) : n.truthy = true ↔ n ≠ .nan ∧ ¬ n.RoundsToZero := by
  rw [truthy, Bool.and_eq_true, bne_iff_ne, Bool.not_eq_true', ← isZero_iff, Bool.not_eq_true]

end Numeral

namespace Expr

inductive StaticText : Expr → String → Prop
  | string {span value} : StaticText (.string span value) value
  | cooked {span chunk chunks text} : chunk.cooked? = some text →
      StaticText (.template span (chunk :: chunks) []) text
  | raw {span chunk chunks} : chunk.cooked? = none →
      StaticText (.template span (chunk :: chunks) []) chunk.raw
  | parenthesized {span e text} : StaticText e text → StaticText (.parenthesized span e) text

inductive Denotes : Expr → ObjectLiteral → Prop
  | object {span entry entries} :
      Denotes (.object span (entry :: entries)) ⟨span, entry :: entries⟩
  | parenthesized {span e o} : Denotes e o → Denotes (.parenthesized span e) o

inductive Truthy : Expr → Prop
  | boolean {span} : Truthy (.boolean span true)
  | string {span value} : value ≠ "" → Truthy (.string span value)
  | number {span n} : n ≠ .nan → ¬ n.RoundsToZero → Truthy (.number span n)
  | bigint {span digits} : digits ≠ "0" → Truthy (.bigint span digits)
  | regexp {span} : Truthy (.regexp span)
  | parenthesized {span e} : Truthy e → Truthy (.parenthesized span e)

lemma staticString?_eq_some_iff {e : Expr} {text : String} :
    e.staticString? = some text ↔ e.StaticText text := by
  constructor
  · induction e using bare.induct with
    | case1 span inner ih => exact fun h => .parenthesized (ih h)
    | case2 e he =>
      intro h
      cases e with
      | string span value =>
        obtain rfl : value = text := by simpa [staticString?, bare] using h
        exact .string
      | template span chunks substitutions =>
        cases chunks with
        | nil => simp [staticString?, bare] at h
        | cons chunk chunks =>
          cases substitutions with
          | cons => simp [staticString?, bare] at h
          | nil =>
            have ht : chunk.cooked?.getD chunk.raw = text := by simpa [staticString?, bare] using h
            cases hc : chunk.cooked? with
            | none =>
              obtain rfl : chunk.raw = text := by simpa [hc] using ht
              exact .raw hc
            | some cooked =>
              obtain rfl : cooked = text := by simpa [hc] using ht
              exact .cooked hc
      | parenthesized span inner => exact (he span inner rfl).elim
      | _ => simp [staticString?, bare] at h
  · intro h
    induction h with
    | string => rfl
    | cooked h => simp [staticString?, bare, h]
    | raw h => simp [staticString?, bare, h]
    | parenthesized _ ih => exact ih

lemma object?_eq_some_iff {e : Expr} {o : ObjectLiteral} : e.object? = some o ↔ e.Denotes o := by
  constructor
  · induction e using bare.induct with
    | case1 span inner ih => exact fun h => .parenthesized (ih h)
    | case2 e he =>
      intro h
      cases e with
      | object span entries =>
        cases entries with
        | nil => simp [object?, bare] at h
        | cons entry entries =>
          obtain rfl : ⟨span, entry :: entries⟩ = o := by simpa [object?, bare] using h
          exact .object
      | parenthesized span inner => exact (he span inner rfl).elim
      | _ => simp [object?, bare] at h
  · intro h
    induction h with
    | object => rfl
    | parenthesized _ ih => exact ih

lemma truthy?_eq_some_true_iff {e : Expr} : e.truthy? = some true ↔ e.Truthy := by
  constructor
  · induction e using bare.induct with
    | case1 span inner ih => exact fun h => .parenthesized (ih h)
    | case2 e he =>
      intro h
      cases e with
      | boolean span value =>
        obtain rfl : value = true := by simpa [truthy?, bare] using h
        exact .boolean
      | string span value => exact .string (by simpa [truthy?, bare] using h)
      | number span n =>
        have hn := (Numeral.truthy_iff n).mp (by simpa [truthy?, bare] using h)
        exact .number hn.1 hn.2
      | bigint span digits => exact .bigint (by simpa [truthy?, bare] using h)
      | regexp span => exact .regexp
      | parenthesized span inner => exact (he span inner rfl).elim
      | _ => simp [truthy?, bare] at h
  · intro h
    induction h with
    | boolean => rfl
    | string h => simpa [truthy?, bare] using h
    | number hn hz => simpa [truthy?, bare] using (Numeral.truthy_iff _).mpr ⟨hn, hz⟩
    | bigint h => simpa [truthy?, bare] using h
    | regexp => rfl
    | parenthesized _ ih => exact ih

end Expr

end ExportLint

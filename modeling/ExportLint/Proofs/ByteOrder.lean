import Mathlib.Algebra.Group.Nat.Defs
import Mathlib.Data.List.Basic
import Mathlib.Tactic.SplitIfs

/-! Strings are ordered as their bytes are. The first byte of a character tells how many follow, and
grows with the character; the bytes that follow are its last digits to base 64. -/

namespace ExportLint.Text

def bytes (s : String) : List UInt8 := s.toUTF8.data.toList

lemma bytes_eq (s : String) : bytes s = s.toList.flatMap String.utf8EncodeChar := by
  rw [bytes, String.toUTF8_eq_toByteArray, ← String.utf8Encode_toList, List.utf8Encode]
  simp

/-- The number of bytes behind the first. -/
def following (n : Nat) : Nat :=
  if n ≤ 0x7F then 0 else if n ≤ 0x7FF then 1 else if n ≤ 0xFFFF then 2 else 3

def lead (n : Nat) : Nat :=
  if n ≤ 0x7F then n else if n ≤ 0x7FF then n / 64 + 0xC0
  else if n ≤ 0xFFFF then n / 4096 + 0xE0 else n / 262144 + 0xF0

/-- The last `k` digits of a number to base 64, each as a byte. -/
def trail : Nat → Nat → List UInt8
  | 0, _ => []
  | k + 1, n => trail k (n / 64) ++ [UInt8.ofNat (n % 64 + 0x80)]

lemma toNat_lt (c : Char) : c.toNat < 0x110000 := by
  have h : c.toNat.isValidChar := c.valid
  unfold Nat.isValidChar at h
  omega

lemma utf8EncodeChar_eq (c : Char) :
    String.utf8EncodeChar c =
      UInt8.ofNat (lead c.toNat) :: trail (following c.toNat) c.toNat := by
  have hc := toNat_lt c
  unfold String.utf8EncodeChar lead following
  rw [Char.toNat] at *
  dsimp only
  generalize c.val.toNat = n at *
  split_ifs
  · rfl
  · have hlead : n / 64 % 32 = n / 64 := by omega
    rw [hlead]
    rfl
  · have hlead : n / 4096 % 16 = n / 4096 := by omega
    rw [hlead]
    rfl
  · have hlead : n / 262144 % 8 = n / 262144 := by omega
    have hdiv : n / 64 / 64 = n / 4096 := Nat.div_div_eq_div_mul n 64 64
    simp [hlead, trail, hdiv]

lemma ofNat_lt {i j : Nat} (h : i < j) (hj : j < 256) : UInt8.ofNat i < UInt8.ofNat j := by
  rw [UInt8.lt_iff_toNat_lt, UInt8.toNat_ofNat', UInt8.toNat_ofNat']
  omega

lemma trail_lt (k : Nat) {m n : Nat} (h : m < n) (hk : m / 64 ^ k = n / 64 ^ k)
    (x y : List UInt8) : trail k m ++ x < trail k n ++ y := by
  induction k generalizing m n x y with
  | zero =>
    rw [Nat.pow_zero, Nat.div_one, Nat.div_one] at hk
    omega
  | succ k ih =>
    rw [trail, trail, List.append_assoc, List.append_assoc]
    by_cases hdiv : m / 64 < n / 64
    · apply ih hdiv
      rw [Nat.div_div_eq_div_mul, Nat.div_div_eq_div_mul, ← Nat.pow_succ', hk]
    · have heq : m / 64 = n / 64 := by omega
      rw [heq]
      apply List.append_left_lt
      exact List.cons_lt_cons_iff.mpr (.inl (ofNat_lt (by omega) (by omega)))

lemma lead_le {m n : Nat} (h : m < n) (hn : n < 0x110000) : lead m ≤ lead n ∧ lead n < 256 := by
  unfold lead
  constructor <;> split_ifs <;> omega

lemma following_eq_of_lead_eq {m n : Nat} (h : m < n) (hn : n < 0x110000) (hl : lead m = lead n) :
    following m = following n ∧ m / 64 ^ following n = n / 64 ^ following n := by
  unfold lead at hl
  unfold following
  split_ifs at * <;> omega

lemma encode_lt {a b : Char} (h : a < b) (x y : List UInt8) :
    String.utf8EncodeChar a ++ x < String.utf8EncodeChar b ++ y := by
  have hab : a.toNat < b.toNat := h
  have hb := toNat_lt b
  obtain ⟨hle, hlt⟩ := lead_le hab hb
  rw [utf8EncodeChar_eq, utf8EncodeChar_eq, List.cons_append, List.cons_append,
    List.cons_lt_cons_iff]
  rcases Nat.lt_or_eq_of_le hle with hlead | hlead
  · exact .inl (ofNat_lt hlead hlt)
  · obtain ⟨hfollow, hdiv⟩ := following_eq_of_lead_eq hab hb hlead
    rw [hlead, hfollow]
    exact .inr ⟨rfl, trail_lt _ hab hdiv x y⟩

lemma flatMap_encode_lt {l m : List Char} (h : l < m) :
    l.flatMap String.utf8EncodeChar < m.flatMap String.utf8EncodeChar := by
  induction l generalizing m with
  | nil =>
    cases m with
    | nil => exact (List.lt_irrefl _ h).elim
    | cons b m =>
      rw [List.flatMap_cons, utf8EncodeChar_eq, List.cons_append]
      exact List.nil_lt_cons _ _
  | cons a l ih =>
    cases m with
    | nil => exact (List.not_lt_nil _ h).elim
    | cons b m =>
      rw [List.flatMap_cons, List.flatMap_cons]
      rcases List.cons_lt_cons_iff.mp h with hab | ⟨rfl, hlm⟩
      · exact encode_lt hab _ _
      · exact List.append_left_lt (ih hlm)

lemma bytes_lt {s t : String} (h : s < t) : bytes s < bytes t := by
  rw [bytes_eq, bytes_eq]
  exact flatMap_encode_lt (String.lt_iff.mp h)

lemma bytes_le_iff {s t : String} : bytes s ≤ bytes t ↔ s ≤ t := by
  constructor
  · intro h
    by_contra hle
    exact h (bytes_lt (String.not_le.mp hle))
  · intro h hlt
    by_cases hst : s < t
    · exact List.lt_asymm hlt (bytes_lt hst)
    · rw [String.le_antisymm h (String.not_lt.mp hst)] at hlt
      exact List.lt_irrefl _ hlt

end ExportLint.Text

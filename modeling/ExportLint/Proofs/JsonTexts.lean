import ExportLint.Json.Pass
import Mathlib.Data.List.Basic

/-! The texts of JSON values, by the rules of the format. Each rule relates a text, what it begins
with and the text behind that. Strings and numbers that keep to the rules are read as what they
stand for, up to where they end. -/

namespace ExportLint.Json

/-- Values of JSON. Numbers are kept as they are written: `1` and `1.0` are two values. -/
inductive Value where
  | null
  | boolean (value : Bool)
  | number (text : NumberText)
  | string (value : String)
  | list (items : List Value)
  | object (members : List (String × Value))

inductive Blanks : List Char → List Char → Prop
  | none {cs} : Blanks cs cs
  | more {c cs rest} : isBlank c → Blanks cs rest → Blanks (c :: cs) rest

/-- The characters of a string up to the closing quote. A surrogate comes with its partner. -/
inductive Chars : List Char → List Char → List Char → Prop
  | close {rest} : Chars ('"' :: rest) [] rest
  | plain {c cs s rest} : c ≠ '"' → c ≠ '\\' → ¬ c < ' ' → Chars cs s rest →
      Chars (c :: cs) (c :: s) rest
  | escaped {e c cs s rest} : simpleEscape? e = some c → Chars cs s rest →
      Chars ('\\' :: e :: cs) (c :: s) rest
  | code {a b c d n cs s rest} : hex4? a b c d = some n → isLeading n = false →
      isTrailing n = false → Chars cs s rest →
      Chars ('\\' :: 'u' :: a :: b :: c :: d :: cs) (Char.ofNat n :: s) rest
  | pair {a b c d e f g h n m cs s rest} : hex4? a b c d = some n → isLeading n = true →
      hex4? e f g h = some m → isTrailing m = true → Chars cs s rest →
      Chars ('\\' :: 'u' :: a :: b :: c :: d :: '\\' :: 'u' :: e :: f :: g :: h :: cs)
        (pairValue n m :: s) rest

structure Digits (ds : List Char) : Prop where
  ne_nil : ds ≠ []
  all : ∀ d ∈ ds, d.isDigit

inductive Whole : List Char → Prop
  | zero : Whole ['0']
  | nonzero {d ds} : d ≠ '0' → Digits (d :: ds) → Whole (d :: ds)

inductive Fraction : List Char → Option (List Char) → List Char → Prop
  | absent {rest} : Fraction rest none rest
  | present {ds rest} : Digits ds → Fraction ('.' :: (ds ++ rest)) (some ds) rest

inductive Exponent : List Char → Option (Bool × List Char) → List Char → Prop
  | absent {rest} : Exponent rest none rest
  | unsigned {e ds rest} : e = 'e' ∨ e = 'E' → Digits ds →
      Exponent (e :: (ds ++ rest)) (some (false, ds)) rest
  | plus {e ds rest} : e = 'e' ∨ e = 'E' → Digits ds →
      Exponent (e :: '+' :: (ds ++ rest)) (some (false, ds)) rest
  | minus {e ds rest} : e = 'e' ∨ e = 'E' → Digits ds →
      Exponent (e :: '-' :: (ds ++ rest)) (some (true, ds)) rest

inductive Number : List Char → NumberText → List Char → Prop
  | positive {ds f? e? cs cs' rest} : Whole ds → Fraction cs f? cs' → Exponent cs' e? rest →
      Number (ds ++ cs) ⟨false, ds, f?, e?⟩ rest
  | negative {ds f? e? cs cs' rest} : Whole ds → Fraction cs f? cs' → Exponent cs' e? rest →
      Number ('-' :: (ds ++ cs)) ⟨true, ds, f?, e?⟩ rest

/-- The key of a member, up to its colon. -/
inductive Key : List Char → String → List Char → Prop
  | mk {cs cs₁ cs₂ name rest} : Blanks cs ('"' :: cs₁) → Chars cs₁ name.toList cs₂ →
      Blanks cs₂ (':' :: rest) → Key cs name rest

/-- What a stretch of text can be: a value, or what stands behind an item of a list or behind a
member of an object, up to the closing bracket. -/
inductive Stretch where
  | value (v : Value)
  | items (vs : List Value)
  | members (ms : List (String × Value))

inductive Text : List Char → Stretch → List Char → Prop
  | null {rest} : Text ('n' :: 'u' :: 'l' :: 'l' :: rest) (.value .null) rest
  | trueWord {rest} : Text ('t' :: 'r' :: 'u' :: 'e' :: rest) (.value (.boolean true)) rest
  | falseWord {rest} :
      Text ('f' :: 'a' :: 'l' :: 's' :: 'e' :: rest) (.value (.boolean false)) rest
  | number {cs t rest} : Number cs t rest → Text cs (.value (.number t)) rest
  | string {cs s rest} : Chars cs s.toList rest → Text ('"' :: cs) (.value (.string s)) rest
  | emptyList {cs rest} : Blanks cs (']' :: rest) → Text ('[' :: cs) (.value (.list [])) rest
  | list {cs cs₁ cs₂ v vs rest} : Blanks cs cs₁ → Text cs₁ (.value v) cs₂ →
      Text cs₂ (.items vs) rest → Text ('[' :: cs) (.value (.list (v :: vs))) rest
  | endItems {cs rest} : Blanks cs (']' :: rest) → Text cs (.items []) rest
  | item {cs cs₁ cs₂ cs₃ v vs rest} : Blanks cs (',' :: cs₁) → Blanks cs₁ cs₂ →
      Text cs₂ (.value v) cs₃ → Text cs₃ (.items vs) rest → Text cs (.items (v :: vs)) rest
  | emptyObject {cs rest} : Blanks cs ('\x7d' :: rest) →
      Text ('\x7b' :: cs) (.value (.object [])) rest
  | object {cs cs₁ cs₂ cs₃ name v ms rest} : Key cs name cs₁ → Blanks cs₁ cs₂ →
      Text cs₂ (.value v) cs₃ → Text cs₃ (.members ms) rest →
      Text ('\x7b' :: cs) (.value (.object ((name, v) :: ms))) rest
  | endMembers {cs rest} : Blanks cs ('\x7d' :: rest) → Text cs (.members []) rest
  | member {cs cs₁ cs₂ cs₃ cs₄ name v ms rest} : Blanks cs (',' :: cs₁) → Key cs₁ name cs₂ →
      Blanks cs₂ cs₃ → Text cs₃ (.value v) cs₄ → Text cs₄ (.members ms) rest →
      Text cs (.members ((name, v) :: ms)) rest

/-- The whole text is the value, with blanks around it. -/
inductive Document (text : String) (v : Value) : Prop
  | mk {cs rest} : Blanks text.toList cs → Text cs (.value v) rest → Blanks rest [] →
      Document text v

lemma skipBlank_cons {c : Char} (h : isBlank c = false) (rest : List Char) :
    skipBlank (c :: rest) = c :: rest := by
  rw [skipBlank, List.dropWhile_cons_of_neg (by simp [h])]

namespace Blanks

variable {cs rest : List Char}

lemma skipBlank_eq (h : Blanks cs rest) : skipBlank cs = skipBlank rest := by
  induction h with
  | none => rfl
  | more hc _ ih => rw [← ih, skipBlank, skipBlank, List.dropWhile_cons_of_pos hc]

lemma skipBlank_cons {c : Char} (h : Blanks cs (c :: rest)) (hc : isBlank c = false) :
    skipBlank cs = c :: rest := by
  rw [h.skipBlank_eq, Json.skipBlank_cons hc]

lemma length_le (h : Blanks cs rest) : rest.length ≤ cs.length := by
  induction h with
  | none => exact Nat.le_refl _
  | more _ _ ih => exact Nat.le_succ_of_le ih

end Blanks

/-! ### Strings -/

lemma ne_of_simple {e c : Char} (h : simpleEscape? e = some c) : e ≠ 'u' := by
  rintro rfl
  cases h

section Strings

variable (acc rest : List Char)

lemma stringFrom_quote : stringFrom acc ('"' :: rest) = .ok (String.ofList acc.reverse, rest) := by
  rw [stringFrom]

lemma stringFrom_plain {c : Char} (hq : c ≠ '"') (hb : c ≠ '\\') (hc : ¬ c < ' ') :
    stringFrom acc (c :: rest) = stringFrom (c :: acc) rest := by
  rw [stringFrom]
  · rw [if_neg hc]
  all_goals simp [hq, hb]

lemma stringFrom_simple {e c : Char} (h : simpleEscape? e = some c) :
    stringFrom acc ('\\' :: e :: rest) = stringFrom (c :: acc) rest := by
  rw [stringFrom]
  · rw [h]
  all_goals simp [ne_of_simple h]

lemma stringFrom_code {a b c d : Char} {n : Nat} (h : hex4? a b c d = some n)
    (hl : isLeading n = false) (ht : isTrailing n = false) :
    stringFrom acc ('\\' :: 'u' :: a :: b :: c :: d :: rest) =
      stringFrom (Char.ofNat n :: acc) rest := by
  rw [stringFrom, h]
  simp [hl, ht]

lemma stringFrom_pair {a b c d e f g h : Char} {n m : Nat} (hn : hex4? a b c d = some n)
    (hl : isLeading n = true) (hm : hex4? e f g h = some m) (ht : isTrailing m = true) :
    stringFrom acc ('\\' :: 'u' :: a :: b :: c :: d :: '\\' :: 'u' :: e :: f :: g :: h :: rest) =
      stringFrom (pairValue n m :: acc) rest := by
  have hnt : isTrailing n = false := by
    simp only [isLeading, isTrailing, Bool.and_eq_true, decide_eq_true_eq] at hl ⊢
    simp
    omega
  rw [stringFrom, hn]
  simp [hl, hnt, hm, ht]

end Strings

namespace Chars

variable {cs s rest : List Char}

lemma stringFrom_eq (h : Chars cs s rest) (acc : List Char) :
    stringFrom acc cs = .ok (String.ofList (acc.reverse ++ s), rest) := by
  induction h generalizing acc with
  | close => rw [stringFrom_quote, List.append_nil]
  | plain hq hb hc _ ih => rw [stringFrom_plain _ _ hq hb hc, ih]; simp
  | escaped he _ ih => rw [stringFrom_simple _ _ he, ih]; simp
  | code hn hl ht _ ih => rw [stringFrom_code _ _ hn hl ht, ih]; simp
  | pair hn hl hm ht _ ih => rw [stringFrom_pair _ _ hn hl hm ht, ih]; simp

end Chars

/-! ### Numbers -/

/-- A text that does not go on with a number. -/
def Ends (rest : List Char) : Prop :=
  ∀ c cs, rest = c :: cs → c.isDigit = false ∧ c ≠ '.' ∧ c ≠ 'e' ∧ c ≠ 'E'

lemma ends_cons {c : Char} (h : c.isDigit = false ∧ c ≠ '.' ∧ c ≠ 'e' ∧ c ≠ 'E') (cs : List Char) :
    Ends (c :: cs) := by
  intro d ds he
  obtain rfl := (List.cons.inj he).1
  exact h

lemma Blanks.ends {cs rest : List Char} (h : Blanks cs rest) (hr : Ends rest) : Ends cs := by
  cases h with
  | none => exact hr
  | more hc _ =>
    intro c cs' he
    obtain rfl := (List.cons.inj he).1
    simp only [isBlank, Bool.or_eq_true, beq_iff_eq] at hc
    rcases hc with ((rfl | rfl) | rfl) | rfl <;> decide

def StopsDigits (rest : List Char) : Prop := ∀ c cs, rest = c :: cs → c.isDigit = false

lemma digit_ne {d c : Char} (hd : d.isDigit = true) (hc : c.isDigit = false) : d ≠ c := by
  rintro rfl
  rw [hd] at hc
  cases hc

/-- A number starts with a sign or a digit, and with no other character. -/
lemma numeral_ne {c x : Char} (hc : c = '-' ∨ c.isDigit) (hx : x.isDigit = false) (hminus : x ≠ '-') :
    c ≠ x := by
  rcases hc with rfl | hc
  · exact hminus.symm
  · exact digit_ne hc hx

lemma isBlank_of_numeral {c : Char} (h : c = '-' ∨ c.isDigit) : isBlank c = false := by
  simp only [isBlank, Bool.or_eq_false_iff, beq_eq_false_iff_ne]
  exact ⟨⟨⟨numeral_ne h rfl (by decide), numeral_ne h rfl (by decide)⟩,
    numeral_ne h rfl (by decide)⟩, numeral_ne h rfl (by decide)⟩

lemma Digits.cons {ds : List Char} (h : Digits ds) : ∃ d ds', ds = d :: ds' ∧ d.isDigit := by
  cases ds with
  | nil => exact (h.ne_nil rfl).elim
  | cons d ds => exact ⟨d, ds, rfl, h.all d (by simp)⟩

lemma Whole.cons {ds : List Char} (h : Whole ds) : ∃ d ds', ds = d :: ds' ∧ d.isDigit := by
  cases h with
  | zero => exact ⟨_, _, rfl, rfl⟩
  | nonzero _ hd => exact hd.cons

lemma span_digits {ds rest : List Char} (hd : ∀ d ∈ ds, d.isDigit) (hr : StopsDigits rest) :
    (ds ++ rest).takeWhile Char.isDigit = ds ∧ (ds ++ rest).dropWhile Char.isDigit = rest := by
  rw [List.takeWhile_append_of_pos hd, List.dropWhile_append_of_pos hd]
  cases rest with
  | nil => simp
  | cons c cs => simp [hr c cs rfl]

lemma digits1_eq {ds rest : List Char} (hd : Digits ds) (hr : StopsDigits rest) (atEnd : Fault) :
    digits1 atEnd (ds ++ rest) = .ok (ds, rest) := by
  obtain ⟨d, ds, rfl, hdigit⟩ := hd.cons
  obtain ⟨htake, hdrop⟩ := span_digits (fun c hc => hd.all c (List.mem_cons_of_mem d hc)) hr
  rw [List.cons_append, digits1, if_pos hdigit, htake, hdrop]

lemma integerPart_eq {ds rest : List Char} (hd : Whole ds) (hr : StopsDigits rest) (atEnd : Fault) :
    integerPart atEnd (ds ++ rest) = .ok (ds, rest) := by
  cases hd with
  | zero =>
    rw [List.singleton_append, integerPart]
    cases rest with
    | nil => rfl
    | cons c cs => simp [hr c cs rfl]
  | nonzero hne hds =>
    rw [integerPart, digits1_eq hds hr]
    intro cs h
    exact hne (List.cons.inj h).1

section Parts

variable {cs rest : List Char}

lemma Exponent.stops {e? : Option (Bool × List Char)} (h : Exponent cs e? rest) (hr : Ends rest) :
    ∀ c cs', cs = c :: cs' → c.isDigit = false ∧ c ≠ '.' := by
  cases h with
  | absent =>
    intro c cs' he
    exact ⟨(hr c cs' he).1, (hr c cs' he).2.1⟩
  | unsigned he _ | plus he _ | minus he _ =>
    intro c cs' hc
    obtain rfl := (List.cons.inj hc).1
    rcases he with rfl | rfl <;> decide

lemma Fraction.stops {cs' : List Char} {f? : Option (List Char)} {e? : Option (Bool × List Char)}
    (hf : Fraction cs f? cs') (he : Exponent cs' e? rest) (hr : Ends rest) : StopsDigits cs := by
  cases hf with
  | absent => exact fun c cs' hc => (he.stops hr c cs' hc).1
  | present _ =>
    intro c cs' hc
    obtain rfl := (List.cons.inj hc).1
    rfl

lemma Fraction.length_le {f? : Option (List Char)} (h : Fraction cs f? rest) :
    rest.length ≤ cs.length := by
  cases h with
  | absent => exact Nat.le_refl _
  | present _ => simp only [List.length_cons, List.length_append]; omega

lemma Exponent.length_le {e? : Option (Bool × List Char)} (h : Exponent cs e? rest) :
    rest.length ≤ cs.length := by
  cases h with
  | absent => exact Nat.le_refl _
  | _ => simp only [List.length_cons, List.length_append]; omega

lemma fractionPart_eq {f? : Option (List Char)} (h : Fraction cs f? rest)
    (hr : ∀ c cs', rest = c :: cs' → c.isDigit = false ∧ c ≠ '.') (atEnd : Fault) :
    fractionPart atEnd cs = .ok (f?, rest) := by
  cases h with
  | absent =>
    rw [fractionPart]
    intro cs' hc
    exact (hr '.' cs' hc).2 rfl
  | present hd =>
    rw [fractionPart, digits1_eq hd fun c cs' hc => (hr c cs' hc).1]

lemma exponentPart_eq {e? : Option (Bool × List Char)} (h : Exponent cs e? rest) (hr : Ends rest)
    (atEnd : Fault) : exponentPart atEnd cs = .ok (e?, rest) := by
  have hstop : StopsDigits rest := fun c cs' hc => (hr c cs' hc).1
  cases h with
  | absent =>
    cases cs with
    | nil => rfl
    | cons c cs =>
      obtain ⟨-, -, he, hE⟩ := hr c cs rfl
      exact if_neg (by simp [he, hE])
  | @unsigned e ds _ he hd =>
    have hread := digits1_eq hd hstop atEnd
    obtain ⟨d, ds, rfl, hdigit⟩ := hd.cons
    rw [exponentPart, if_pos he, hread]
    · intro cs' h
      exact digit_ne hdigit rfl (List.cons.inj h).1
    · intro cs' h
      exact digit_ne hdigit rfl (List.cons.inj h).1
  | plus he hd => simp only [exponentPart, if_pos he, digits1_eq hd hstop]
  | minus he hd => simp only [exponentPart, if_pos he, digits1_eq hd hstop]

end Parts

namespace Number

variable {cs rest : List Char} {t : NumberText}

lemma starts (h : Number cs t rest) : ∃ c cs', cs = c :: cs' ∧ (c = '-' ∨ c.isDigit) := by
  cases h with
  | positive hw _ _ =>
    obtain ⟨d, ds, rfl, hdigit⟩ := hw.cons
    exact ⟨d, _, rfl, .inr hdigit⟩
  | negative _ _ _ => exact ⟨_, _, rfl, .inl rfl⟩

lemma length_lt (h : Number cs t rest) :
    rest.length < cs.length := by
  cases h with
  | positive hw hf he =>
    obtain ⟨d, ds, rfl, -⟩ := hw.cons
    have h₁ := hf.length_le
    have h₂ := he.length_le
    simp only [List.length_append, List.length_cons]
    omega
  | negative _ hf he =>
    have h₁ := hf.length_le
    have h₂ := he.length_le
    simp only [List.length_append, List.length_cons]
    omega

end Number

lemma numberText_eq {cs rest : List Char} {t : NumberText} (h : Number cs t rest) (hr : Ends rest)
    (care : Care) : numberText care cs = .ok (t, rest) := by
  unfold numberText
  extract_lets atEnd
  clear_value atEnd
  cases h with
  | positive hw hf he =>
    have hwhole := integerPart_eq hw (hf.stops he hr) atEnd
    obtain ⟨d, ds, rfl, hdigit⟩ := hw.cons
    simp only [List.cons_append] at hwhole ⊢
    split
    · rename_i h
      exact (digit_ne hdigit rfl (List.cons.inj h).1).elim
    · simp only [hwhole, bind, Except.bind, fractionPart_eq hf (he.stops hr), exponentPart_eq he hr]
      rfl
  | negative hw hf he =>
    simp only [integerPart_eq hw (hf.stops he hr), bind, Except.bind,
      fractionPart_eq hf (he.stops hr), exponentPart_eq he hr]
    rfl

lemma number_eq {cs rest : List Char} {t : NumberText} (h : Number cs t rest) (hr : Ends rest) :
    number cs = t.value.map fun x => (x, rest) := by
  rw [number, numberText_eq h hr]
  cases hvalue : t.value <;> simp only [bind, Except.bind, hvalue] <;> rfl

end ExportLint.Json

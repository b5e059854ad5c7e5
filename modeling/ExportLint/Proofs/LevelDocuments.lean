import ExportLint.Proofs.NamedLevels
import Mathlib.Tactic.IntervalCases

/-! Levels in a document are written as names or as numbers. Of several levels of one rule the last
counts, and the first value that is no level is refused, whatever follows it. -/

namespace ExportLint

namespace Json

lemma ofDigitChars_cons (d : Char) (ds : List Char) (n : Nat) :
    Nat.ofDigitChars 10 (d :: ds) n = Nat.ofDigitChars 10 ds (n * 10 + digitValue d) := by
  rw [Nat.ofDigitChars_cons, Nat.mul_comm]
  rfl

lemma le_ofDigitChars (ds : List Char) (n : Nat) : n ≤ Nat.ofDigitChars 10 ds n := by
  induction ds generalizing n with
  | nil => exact Nat.le_refl n
  | cons d ds ih =>
    rw [ofDigitChars_cons]
    have h := ih (n * 10 + digitValue d)
    omega

lemma absorb_of_le {ds : List Char} {n : Nat} (h : Nat.ofDigitChars 10 ds n ≤ maxNatural) :
    absorb n ds = (Nat.ofDigitChars 10 ds n, []) := by
  induction ds generalizing n with
  | nil => rfl
  | cons d ds ih =>
    rw [ofDigitChars_cons] at h ⊢
    have hfits := (le_ofDigitChars ds (n * 10 + digitValue d)).trans h
    simp only [absorb, if_pos hfits, ih h]

lemma absorb_of_lt {ds : List Char} {n : Nat} (hn : n ≤ maxNatural)
    (h : maxNatural < Nat.ofDigitChars 10 ds n) : (absorb n ds).2 ≠ [] := by
  induction ds generalizing n with
  | nil => exact absurd h (Nat.not_lt.mpr hn)
  | cons d ds ih =>
    rw [ofDigitChars_cons] at h
    simp only [absorb]
    split
    · rename_i hfits
      exact ih hfits h
    · simp

namespace NumberText

/-- The natural number that is written, without sign, fraction or exponent, if it fits 64 bits. -/
def natural? : NumberText → Option Nat
  | ⟨false, ds, none, none⟩ =>
    if Nat.ofDigitChars 10 ds 0 ≤ maxNatural then some (Nat.ofDigitChars 10 ds 0) else none
  | _ => none

lemma natural?_eq_some_iff {t : NumberText} {n : Nat} : t.natural? = some n ↔
    t = ⟨false, t.integer, none, none⟩ ∧ Nat.ofDigitChars 10 t.integer 0 = n ∧ n ≤ maxNatural := by
  constructor
  · intro h
    unfold natural? at h
    split at h
    · split at h
      · cases h
        exact ⟨rfl, rfl, ‹_›⟩
      · cases h
    · cases h
  · rintro ⟨ht, rfl, hn⟩
    rw [ht, natural?, if_pos hn]

lemma value_eq_natural_iff {t : NumberText} {n : Nat} :
    t.value = .ok (.natural n) ↔ t.natural? = some n := by
  rw [natural?_eq_some_iff]
  constructor
  · intro h
    obtain ⟨negative, ds, f?, e?⟩ := t
    simp only [value] at h
    split at h
    · rename_i hleft
      have hfits : Nat.ofDigitChars 10 ds 0 ≤ maxNatural :=
        Nat.le_of_not_lt fun h => absorb_of_lt (Nat.zero_le _) h hleft
      rw [absorb_of_le hfits] at h
      cases negative with
      | false =>
        cases h
        exact ⟨rfl, rfl, hfits⟩
      | true =>
        simp only [Bool.not_true, Bool.false_eq_true, if_false] at h
        split at h <;> cases h
    · split at h
      · split at h <;> cases h
      · generalize scaled _ _ = x at h
        cases x <;> cases h
  · rintro ⟨ht, rfl, hn⟩
    rw [ht, value, absorb_of_le hn]
    rfl

end NumberText

lemma digitChar_digitValue {d : Char} (h : d.isDigit) : Nat.digitChar (digitValue d) = d := by
  obtain ⟨hlow, hhigh⟩ : 48 ≤ d.toNat ∧ d.toNat ≤ 57 := by
    simpa [Char.isDigit, UInt32.le_iff_toNat_le] using h
  rw [← Char.ofNat_toNat d]
  generalize d.toNat = k at hlow hhigh
  interval_cases k <;> decide

lemma Whole.eq_digitChar {ds : List Char} {n : Nat} (h : Whole ds)
    (hn : Nat.ofDigitChars 10 ds 0 = n) (hlt : n < 10) : ds = [Nat.digitChar n] := by
  cases h with
  | zero =>
    subst hn
    rfl
  | @nonzero d ds hne hd =>
    have hdigit := digitChar_digitValue (hd.all d (by simp))
    rw [ofDigitChars_cons, Nat.zero_mul, Nat.zero_add] at hn
    cases ds with
    | nil =>
      obtain rfl : digitValue d = n := hn
      rw [hdigit]
    | cons d' ds =>
      have hpos : digitValue d ≠ 0 := by
        intro hzero
        rw [hzero] at hdigit
        exact hne hdigit.symm
      have hle := le_ofDigitChars ds (digitValue d * 10 + digitValue d')
      rw [ofDigitChars_cons] at hn
      omega

lemma Text.value_of_mem {cs rest : List Char} {ms : List (String × Value)}
    (h : Text cs (.members ms) rest) {m : String × Value} (hm : m ∈ ms) :
    ∃ cs rest, Text cs (.value m.2) rest := by
  induction ms generalizing cs with
  | nil => cases hm
  | cons m' ms ih =>
    cases h with
    | member _ _ _ hv hms =>
      rcases List.mem_cons.mp hm with rfl | hm
      · exact ⟨_, _, hv⟩
      · exact ih hms hm

lemma Text.value_of_mem_object {cs rest : List Char} {ms : List (String × Value)}
    (h : Text cs (.value (.object ms)) rest) {m : String × Value} (hm : m ∈ ms) :
    ∃ cs rest, Text cs (.value m.2) rest := by
  cases h with
  | emptyObject _ => cases hm
  | object _ _ hv hms =>
    rcases List.mem_cons.mp hm with rfl | hm
    · exact ⟨_, _, hv⟩
    · exact hms.value_of_mem hm

end Json

namespace Level

inductive Style where
  | name
  | number

def json (level : Level) : Style → Json.Value
  | .name => .string level.name
  | .number => .number ⟨false, [Nat.digitChar level.number], none, none⟩

lemma natural?_number (level : Level) :
    Json.NumberText.natural? ⟨false, [Nat.digitChar level.number], none, none⟩ =
      some level.number := by
  cases level <;> rfl

lemma ofNumber?_number (level : Level) : ofNumber? level.number = some level := by
  cases level <;> rfl

lemma ofNumber?_eq_some_iff {n : Nat} {level : Level} :
    ofNumber? n = some level ↔ level.number = n := by
  constructor
  · intro h
    unfold ofNumber? at h
    split at h <;> cases h <;> rfl
  · rintro rfl
    exact ofNumber?_number level

end Level

namespace Settings

/-- What is said against a value that is no level. -/
def refusal : Json.Value → ReadError
  | .string name => .levelName name
  | .number t =>
    match t.natural? with
    | some n => .levelNumber n
    | none => .levelType
  | _ => .levelType

lemma outcome_json (level : Level) (style : Level.Style) : outcome (level.json style) = .ok level := by
  cases style with
  | name => exact outcome_name level
  | number =>
    rw [Level.json, outcome, Json.NumberText.value_eq_natural_iff.mpr level.natural?_number]
    change Reader.levelOfNumber (.natural level.number) = _
    rw [Reader.levelOfNumber, level.ofNumber?_number]

lemma within_json (level : Level) (style : Level.Style) (depth : Nat) :
    (level.json style).Within depth := by
  cases style with
  | name => exact .string
  | number => exact .number (Json.NumberText.value_eq_natural_iff.mpr level.natural?_number)

lemma ofNumber?_eq_none {t : Json.NumberText} {n : Nat} (hw : Json.Whole t.integer)
    (hn : t.natural? = some n) (h : ∀ level : Level, .number t ≠ level.json .number) :
    Level.ofNumber? n = none := by
  rw [Option.eq_none_iff_forall_ne_some]
  intro level hlevel
  obtain ⟨ht, hdigits, -⟩ := Json.NumberText.natural?_eq_some_iff.mp hn
  obtain rfl := Level.ofNumber?_eq_some_iff.mp hlevel
  have hlt : level.number < 10 := by cases level <;> decide
  apply h level
  rw [Level.json, ht, hw.eq_digitChar hdigits hlt]

lemma outcome_number {t : Json.NumberText} {x : Json.NumberValue} (hw : Json.Whole t.integer)
    (hx : t.value = .ok x) (h : ∀ level : Level, .number t ≠ level.json .number) :
    outcome (.number t) = .error (refusal (.number t)) := by
  rw [outcome, hx, refusal]
  change Reader.levelOfNumber x = _
  cases hn : t.natural? with
  | some n =>
    have hvalue := Json.NumberText.value_eq_natural_iff.mpr hn
    obtain rfl : .natural n = x := by simpa [hx] using hvalue.symm
    simp only [Reader.levelOfNumber, ofNumber?_eq_none hw hn h]
  | none =>
    cases x with
    | natural n =>
      rw [Json.NumberText.value_eq_natural_iff.mp hx] at hn
      cases hn
    | negative n => rfl
    | real negative magnitude => rfl

lemma outcome_eq_refusal {cs rest : List Char} {v : Json.Value} (ht : Json.Text cs (.value v) rest)
    (hv : v.Within Json.maxDepth) (h : ∀ (level : Level) style, v ≠ level.json style) :
    outcome v = .error (refusal v) := by
  cases v with
  | string name =>
    apply outcome_of_not_mem
    intro hname
    obtain ⟨level, rfl⟩ := Level.mem_names_iff.mp hname
    exact h level .name rfl
  | number t =>
    cases ht with
    | number hn =>
      cases hv with
      | number hx =>
        have hw : Json.Whole t.integer := by cases hn <;> assumption
        exact outcome_number hw hx fun level => h level .number
  | _ => rfl

/-! ### The last level counts -/

lemma lookup_cons (e : String × Level) (levels : List (String × Level)) (id : String) :
    (e :: levels).lookup id = if e.1 = id then some e.2 else levels.lookup id := by
  obtain ⟨name, level⟩ := e
  by_cases h : name = id
  · simp [← h]
  · have hne : (id == name) = false := by simpa using Ne.symm h
    simp [List.lookup_cons, h, hne]

lemma lookup_replace (levels : List (String × Level)) (name : String) (level : Level)
    (id : String) : (replace levels name level).lookup id =
      (levels.lookup id).map fun old => if name = id then level else old := by
  induction levels with
  | nil => rfl
  | cons e levels ih =>
    rw [replace] at ih ⊢
    rw [List.map_cons, lookup_cons, lookup_cons, ih]
    by_cases he : e.1 = name
    · by_cases hid : name = id <;> simp [he, hid]
    · by_cases hid : e.1 = id
      · subst hid
        simp [he, Ne.symm he]
      · simp [he, hid]

lemma get?_set (s : Settings) (name : String) (level : Level) (id : String) :
    (s.set name level).get? id = if name = id then some level else s.get? id := by
  unfold set get?
  split
  · rename_i old hold
    rw [lookup_replace]
    by_cases h : name = id
    · simp [← h, hold]
    · simp [h]
  · rename_i hnone
    rw [List.lookup_append, lookup_cons]
    by_cases h : name = id
    · simp [← h, hnone]
    · simp [h]

lemma get?_foldl_set (entries : List (String × Level)) (s : Settings) (id : String) :
    (entries.foldl (fun s e => s.set e.1 e.2) s).get? id =
      (entries.reverse.lookup id).or (s.get? id) := by
  induction entries generalizing s with
  | nil => rfl
  | cons e entries ih =>
    rw [List.foldl_cons, ih, get?_set, List.reverse_cons, List.lookup_append, lookup_cons,
      Option.or_assoc]
    by_cases h : e.1 = id <;> simp [h]

def writtenLevel (level : Level) : Level.Style → List Char
  | .name => Writer.string level.name
  | .number => [Nat.digitChar level.number]

lemma text_digit {c : Char} (rest : List Char) (h : c ≠ '0') (hc : c.isDigit) :
    Json.Text (c :: rest) (.value (.number ⟨false, [c], none, none⟩)) rest := by
  have hwhole : Json.Whole [c] := .nonzero h ⟨by simp, by simpa using hc⟩
  exact .number (.positive hwhole .absent .absent)

lemma text_json (level : Level) (style : Level.Style) (rest : List Char) :
    Json.Text (writtenLevel level style ++ rest) (.value (level.json style)) rest := by
  cases style with
  | name => exact text_string level.name rest
  | number =>
    cases level with
    | off => exact .number (.positive .zero .absent .absent)
    | warn => exact text_digit rest (by decide) rfl
    | error => exact text_digit rest (by decide) rfl

lemma value_of_document {text : String} {ms : List (String × Json.Value)}
    (h : Json.Document text (document ms)) {m : String × Json.Value} (hm : m ∈ ms) :
    ∃ cs rest, Json.Text cs (.value m.2) rest := by
  cases h with
  | mk _ htext _ =>
    obtain ⟨_, _, hrules⟩ := htext.value_of_mem_object List.mem_cons_self
    exact hrules.value_of_mem_object hm

theorem read_inverts_rendering :
    (∀ levels : List (String × Level × Level.Style),
      let rendered := document (levels.map fun l => (l.1, l.2.1.json l.2.2))
      (∃ text, Json.Document text rendered) ∧
      ∀ text, Json.Document text rendered → ∃ s, read text = .ok s ∧
        ∀ id, s.get? id = (levels.map fun l => (l.1, l.2.1)).reverse.lookup id) ∧
    (∀ (before : List (String × Level × Level.Style)) (id : String) (v : Json.Value)
      (after : List (String × Json.Value)) (text : String),
      (∀ (level : Level) style, v ≠ level.json style) → v.Within Json.maxDepth →
      Json.Document text
        (document (before.map (fun l => (l.1, l.2.1.json l.2.2)) ++ (id, v) :: after)) →
      read text = .error (refusal v)) := by
  refine ⟨?_, ?_⟩
  · intro levels rendered
    refine ⟨⟨_, document_written Prod.fst fun l _ => text_json l.2.1 l.2.2⟩, ?_⟩
    intro text htext
    have hread := read_document htext
      (readable_of_within (List.forall_mem_map.mpr fun l _ => within_json l.2.1 l.2.2 _))
    rw [foldlM_enter_of_ok fun l _ => outcome_json l.2.1 l.2.2] at hread
    refine ⟨_, hread, fun id => ?_⟩
    have hget := get?_foldl_set (levels.map fun l => (l.1, l.2.1)) empty id
    rw [List.foldl_map] at hget
    simpa [empty, get?] using hget
  · intro before id v after text hno hv htext
    obtain ⟨_, _, hvalue⟩ := value_of_document htext
      (List.mem_append_right _ (List.mem_cons_self (a := (id, v))))
    have hrefused := outcome_eq_refusal hvalue hv hno
    have hbefore : ∀ m ∈ before.map fun l => (l.1, l.2.1.json l.2.2),
        ∃ level, outcome m.2 = .ok level :=
      List.forall_mem_map.mpr fun l _ => ⟨l.2.1, outcome_json l.2.1 l.2.2⟩
    have hreadable : Readable ((id, v) :: after) := by
      refine ⟨hv, fun level hlevel => ?_⟩
      rw [hrefused] at hlevel
      cases hlevel
    rw [read_document htext (readable_append
      (List.forall_mem_map.mpr fun l _ => within_json l.2.1 l.2.2 _) hreadable)]
    exact foldlM_enter_of_error hbefore hrefused empty

def nestedLevel : Json.Value := .list [.number ⟨false, ['3'], none, none⟩]

def nestedLevelText : String := "\x7b \"rules\" : \x7b\"y\":1,\"x\":[3 ],\"\\u0078\": 2\x7d\x7d"

lemma document_nestedLevelText :
    Json.Document nestedLevelText (document [("y", .number ⟨false, ['1'], none, none⟩),
      ("x", nestedLevel), ("x", .number ⟨false, ['2'], none, none⟩)]) := by
  have hchars : Json.Blanks nestedLevelText.toList ['\x7b', ' ', '"', 'r', 'u', 'l', 'e', 's', '"',
      ' ', ':', ' ', '\x7b', '"', 'y', '"', ':', '1', ',', '"', 'x', '"', ':', '[', '3', ' ', ']',
      ',', '"', '\\', 'u', '0', '0', '7', '8', '"', ':', ' ', '2', '\x7d', '\x7d'] := .none
  have hx (rest : List Char) : Json.Chars
      ('\\' :: 'u' :: '0' :: '0' :: '7' :: '8' :: '"' :: rest) ['x'] rest :=
    .code rfl rfl rfl .close
  refine .mk hchars (.object (.mk (.more rfl .none) (chars_written "rules".toList _)
    (.more rfl .none)) (.more rfl .none) ?_ (.endMembers .none)) .none
  refine .object (.mk .none (chars_written ['y'] _) .none) .none
    (text_digit _ (by decide) rfl) ?_
  refine .member .none (.mk .none (chars_written ['x'] _) .none) .none
    (.list .none (text_digit _ (by decide) rfl) (.endItems (.more rfl .none))) ?_
  exact .member .none (.mk .none (hx _) .none) (.more rfl .none)
    (text_digit _ (by decide) rfl) (.endMembers .none)

theorem nestedLevel_refused :
    (∃ text, Json.Document text (document [("y", .number ⟨false, ['1'], none, none⟩)])) ∧
    Json.Document nestedLevelText (document [("y", .number ⟨false, ['1'], none, none⟩),
      ("x", nestedLevel), ("x", .number ⟨false, ['2'], none, none⟩)]) ∧
    read nestedLevelText = .error .levelType := by
  obtain ⟨hgood, hbad⟩ := read_inverts_rendering
  have hno : ∀ (level : Level) style, nestedLevel ≠ level.json style := by
    intro level style h
    cases style <;> cases h
  have hwithin : nestedLevel.Within Json.maxDepth := by
    refine .list fun v hv => ?_
    obtain rfl := List.mem_singleton.mp hv
    exact .number (Json.NumberText.value_eq_natural_iff.mpr rfl)
  exact ⟨(hgood [("y", .warn, .number)]).1, document_nestedLevelText,
    hbad [("y", .warn, .number)] "x" nestedLevel _ nestedLevelText hno hwithin
      document_nestedLevelText⟩

end Settings

end ExportLint

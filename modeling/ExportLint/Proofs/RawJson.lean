import ExportLint.Proofs.JsonTexts

/-! JSON as it is written, by the rules of the format alone. The rules ask less of a string than a
reader does: half of a surrogate pair may stand without the other. So the values are kept with their
strings unread, and what a string stands for is a question of its own. -/

namespace ExportLint.Json

/-- What stands between the quotes of a string. -/
inductive Body : List Char → Prop
  | nil : Body []
  | plain {c cs} : c ≠ '"' → c ≠ '\\' → ¬ c < ' ' → Body cs → Body (c :: cs)
  | escaped {e c cs} : simpleEscape? e = some c → Body cs → Body ('\\' :: e :: cs)
  | code {a b c d n cs} : hex4? a b c d = some n → Body cs →
      Body ('\\' :: 'u' :: a :: b :: c :: d :: cs)

/-- Values of JSON, with numbers and strings as they are written. -/
inductive Raw where
  | null
  | boolean (value : Bool)
  | number (text : NumberText)
  | string (body : List Char)
  | list (items : List Raw)
  | object (members : List (List Char × Raw))

namespace Raw

/-- The key of a member, up to its colon. -/
inductive Key : List Char → List Char → List Char → Prop
  | mk {cs cs₁ body rest} : Blanks cs ('"' :: (body ++ '"' :: cs₁)) → Body body →
      Blanks cs₁ (':' :: rest) → Key cs body rest

/-- What a stretch of text can be: a value, or what stands behind an item of a list or behind a
member of an object, up to the closing bracket. -/
inductive Stretch where
  | value (v : Raw)
  | items (vs : List Raw)
  | members (ms : List (List Char × Raw))

inductive Text : List Char → Stretch → List Char → Prop
  | null {rest} : Text ('n' :: 'u' :: 'l' :: 'l' :: rest) (.value .null) rest
  | trueWord {rest} : Text ('t' :: 'r' :: 'u' :: 'e' :: rest) (.value (.boolean true)) rest
  | falseWord {rest} :
      Text ('f' :: 'a' :: 'l' :: 's' :: 'e' :: rest) (.value (.boolean false)) rest
  | number {cs t rest} : Number cs t rest → Text cs (.value (.number t)) rest
  | string {body rest} : Body body → Text ('"' :: (body ++ '"' :: rest)) (.value (.string body)) rest
  | emptyList {cs rest} : Blanks cs (']' :: rest) → Text ('[' :: cs) (.value (.list [])) rest
  | list {cs cs₁ cs₂ v vs rest} : Blanks cs cs₁ → Text cs₁ (.value v) cs₂ →
      Text cs₂ (.items vs) rest → Text ('[' :: cs) (.value (.list (v :: vs))) rest
  | endItems {cs rest} : Blanks cs (']' :: rest) → Text cs (.items []) rest
  | item {cs cs₁ cs₂ cs₃ v vs rest} : Blanks cs (',' :: cs₁) → Blanks cs₁ cs₂ →
      Text cs₂ (.value v) cs₃ → Text cs₃ (.items vs) rest → Text cs (.items (v :: vs)) rest
  | emptyObject {cs rest} : Blanks cs ('\x7d' :: rest) →
      Text ('\x7b' :: cs) (.value (.object [])) rest
  | object {cs cs₁ cs₂ cs₃ body v ms rest} : Key cs body cs₁ → Blanks cs₁ cs₂ →
      Text cs₂ (.value v) cs₃ → Text cs₃ (.members ms) rest →
      Text ('\x7b' :: cs) (.value (.object ((body, v) :: ms))) rest
  | endMembers {cs rest} : Blanks cs ('\x7d' :: rest) → Text cs (.members []) rest
  | member {cs cs₁ cs₂ cs₃ cs₄ body v ms rest} : Blanks cs (',' :: cs₁) → Key cs₁ body cs₂ →
      Blanks cs₂ cs₃ → Text cs₃ (.value v) cs₄ → Text cs₄ (.members ms) rest →
      Text cs (.members ((body, v) :: ms)) rest

/-- The whole text is the value, with blanks around it. -/
inductive Document (text : String) (v : Raw) : Prop
  | mk {cs rest} : Blanks text.toList cs → Text cs (.value v) rest → Blanks rest [] →
      Document text v

end Raw

/-! ### Strings -/

/-- What a string stands for: what is read of it where nothing follows. -/
def unescape (body : List Char) : Except Fault String :=
  (string (body ++ ['"'])).map Prod.fst

lemma stringFrom_trailing (acc rest : List Char) {a b c d : Char} {n : Nat}
    (h : hex4? a b c d = some n) (ht : isTrailing n = true) :
    stringFrom acc ('\\' :: 'u' :: a :: b :: c :: d :: rest) = .error .unpairedSurrogate := by
  rw [stringFrom, h]
  simp [ht]

section Leading

variable (acc rest : List Char) {a b c d : Char} {n : Nat} (hn : hex4? a b c d = some n)
  (hl : isLeading n = true) (ht : isTrailing n = false)
include hn hl ht

lemma stringFrom_lone {x : Char} (hx : x ≠ '\\') :
    stringFrom acc ('\\' :: 'u' :: a :: b :: c :: d :: x :: rest) = .error .unfinishedPair := by
  rw [stringFrom, hn]
  simp [ht, hl, hx]

lemma stringFrom_lone_escape {e : Char} (he : e ≠ 'u') :
    stringFrom acc ('\\' :: 'u' :: a :: b :: c :: d :: '\\' :: e :: rest) =
      .error .unfinishedPair := by
  rw [stringFrom, hn]
  simp [ht, hl, he]

lemma stringFrom_unpaired {e f g h : Char} {m : Nat} (hm : hex4? e f g h = some m)
    (htm : isTrailing m = false) :
    stringFrom acc ('\\' :: 'u' :: a :: b :: c :: d :: '\\' :: 'u' :: e :: f :: g :: h :: rest) =
      .error .unpairedSurrogate := by
  rw [stringFrom, hn]
  simp [ht, hl, hm, htm]

end Leading

namespace Body

variable {body : List Char}

/-- What follows the string decides nothing about what is read of it. -/
lemma stringFrom_eq (h : Body body) (acc rest : List Char) :
    stringFrom acc (body ++ '"' :: rest) =
      (stringFrom acc (body ++ ['"'])).map fun s => (s.1, rest) := by
  -- a pair of surrogates is read at once, so the induction is on the length
  induction hlen : body.length using Nat.strongRecOn generalizing body acc with
  | ind len ih =>
    subst hlen
    cases h with
    | nil => simp [stringFrom_quote, Except.map]
    | plain hq hb hc hbody =>
      simp only [List.cons_append, stringFrom_plain _ _ hq hb hc]
      exact ih _ (by simp) hbody _ rfl
    | escaped he hbody =>
      simp only [List.cons_append, stringFrom_simple _ _ he]
      exact ih _ (by simp only [List.length_cons]; omega) hbody _ rfl
    | @code a b c d n cs hn hbody =>
      simp only [List.cons_append]
      cases ht : isTrailing n with
      | true => simp only [stringFrom_trailing _ _ hn ht, Except.map]
      | false =>
        cases hl : isLeading n with
        | false =>
          simp only [stringFrom_code _ _ hn hl ht]
          exact ih _ (by simp only [List.length_cons]; omega) hbody _ rfl
        | true =>
          cases hbody with
          | nil =>
            simp only [List.nil_append, stringFrom_lone _ _ hn hl ht (by decide : '"' ≠ '\\'),
              Except.map]
          | plain _ hb _ _ =>
            simp only [List.cons_append, stringFrom_lone _ _ hn hl ht hb, Except.map]
          | escaped he _ =>
            simp only [List.cons_append, stringFrom_lone_escape _ _ hn hl ht (ne_of_simple he),
              Except.map]
          | @code e f g h m cs hm hbody =>
            simp only [List.cons_append]
            cases htm : isTrailing m with
            | true =>
              simp only [stringFrom_pair _ _ hn hl hm htm]
              exact ih _ (by simp only [List.length_cons]; omega) hbody _ rfl
            | false => simp only [stringFrom_unpaired _ _ hn hl ht hm htm, Except.map]

lemma string_eq (h : Body body) (rest : List Char) :
    string (body ++ '"' :: rest) = (unescape body).map fun s => (s, rest) := by
  rw [unescape, string, h.stringFrom_eq]
  cases stringFrom [] (body ++ ['"']) <;> rfl

lemma passString_eq (h : Body body) (rest : List Char) :
    passString (body ++ '"' :: rest) = .ok rest := by
  induction h with
  | nil => rw [List.nil_append, passString]
  | plain hq hb hc _ ih =>
    rw [List.cons_append, passString]
    · rw [if_neg hc, ih]
    all_goals simp [hq, hb]
  | escaped he _ ih =>
    rw [List.cons_append, List.cons_append, passString]
    · rw [he, ih]
      simp
    all_goals simp [ne_of_simple he]
  | code hn _ ih => simp only [List.cons_append, passString, hn, ih]

end Body

lemma Chars.exists_body {cs s rest : List Char} (h : Chars cs s rest) :
    ∃ body, cs = body ++ '"' :: rest ∧ Body body ∧ unescape body = .ok (String.ofList s) := by
  obtain ⟨body, rfl, hbody⟩ : ∃ body, cs = body ++ '"' :: rest ∧ Body body := by
    induction h with
    | close => exact ⟨[], rfl, .nil⟩
    | plain hq hb hc _ ih =>
      obtain ⟨body, rfl, hbody⟩ := ih
      exact ⟨_, rfl, .plain hq hb hc hbody⟩
    | escaped he _ ih =>
      obtain ⟨body, rfl, hbody⟩ := ih
      exact ⟨_, rfl, .escaped he hbody⟩
    | code hn _ _ _ ih =>
      obtain ⟨body, rfl, hbody⟩ := ih
      exact ⟨_, rfl, .code hn hbody⟩
    | pair hn _ hm _ _ ih =>
      obtain ⟨body, rfl, hbody⟩ := ih
      exact ⟨_, rfl, .code hn (.code hm hbody)⟩
  refine ⟨body, rfl, hbody, ?_⟩
  have hstring := h.stringFrom_eq []
  rw [← string, hbody.string_eq] at hstring
  cases hname : unescape body with
  | error fault => simp [hname, Except.map] at hstring
  | ok name => simpa [hname, Except.map] using hstring

/-- What passing over something asks of it: with full care, that it can be read. -/
def Care.demand {α : Type} (care : Care) (read : Except Fault α) : Except Fault Unit :=
  match care with
  | .full => read.map fun _ => ()
  | .passing => .ok ()

lemma pastString_eq {body : List Char} (h : Body body) (care : Care) (rest : List Char) :
    pastString care (body ++ '"' :: rest) = (care.demand (unescape body)).map fun _ => rest := by
  cases care with
  | full =>
    rw [pastString, h.string_eq]
    cases unescape body <;> rfl
  | passing => exact h.passString_eq rest

lemma pastNumber_eq {cs rest : List Char} {t : NumberText} (h : Number cs t rest) (hr : Ends rest)
    (care : Care) : pastNumber care cs = (care.demand t.value).map fun _ => rest := by
  cases care with
  | full =>
    rw [pastNumber, number_eq h hr]
    cases t.value <;> rfl
  | passing =>
    rw [pastNumber, numberText_eq h hr]
    rfl

namespace Raw

namespace Key

variable {cs body rest : List Char}

lemma skipBlank_eq (h : Key cs body rest) :
    ∃ cs₁, skipBlank cs = '"' :: (body ++ '"' :: cs₁) ∧ Body body ∧ pastColon cs₁ = .ok rest := by
  cases h with
  | mk hquote hbody hcolon =>
    refine ⟨_, hquote.skipBlank_cons rfl, hbody, ?_⟩
    rw [pastColon, hcolon.skipBlank_cons rfl]
    rfl

lemma length_lt (h : Key cs body rest) : rest.length < cs.length := by
  cases h with
  | mk hquote _ hcolon =>
    have h₁ := hquote.length_le
    have h₂ := hcolon.length_le
    simp only [List.length_cons, List.length_append] at h₁ h₂
    omega

end Key

namespace Text

variable {cs rest : List Char}

lemma length_lt {stretch : Stretch} (h : Text cs stretch rest) : rest.length < cs.length := by
  induction h with
  | null | trueWord | falseWord => simp only [List.length_cons]; omega
  | number hn => exact hn.length_lt
  | string _ => simp only [List.length_cons, List.length_append]; omega
  | emptyList hb | endItems hb | emptyObject hb | endMembers hb =>
    have h₁ := hb.length_le
    simp only [List.length_cons] at h₁ ⊢
    omega
  | list hb _ _ ihv ihvs =>
    have h₁ := hb.length_le
    simp only [List.length_cons]
    omega
  | item hb hb₁ _ _ ihv ihvs =>
    have h₁ := hb.length_le
    have h₂ := hb₁.length_le
    simp only [List.length_cons] at h₁
    omega
  | object hk hb _ _ ihv ihms =>
    have h₁ := hk.length_lt
    have h₂ := hb.length_le
    simp only [List.length_cons]
    omega
  | member hb hk hb₁ _ _ ihv ihms =>
    have h₁ := hb.length_le
    have h₂ := hk.length_lt
    have h₃ := hb₁.length_le
    simp only [List.length_cons] at h₁
    omega

lemma length_members_lt {ms : List (List Char × Raw)} (h : Text cs (.members ms) rest) :
    ms.length < cs.length := by
  induction ms generalizing cs with
  | nil => exact Nat.lt_of_le_of_lt (Nat.zero_le _) h.length_lt
  | cons m ms ih =>
    cases h with
    | member hb hk hb₁ hv hms =>
      have h₁ := hb.length_le
      have h₂ := hk.length_lt
      have h₃ := hb₁.length_le
      have h₄ := hv.length_lt
      have h₅ := ih hms
      simp only [List.length_cons] at h₁ ⊢
      omega

lemma items_ends {vs : List Raw} (h : Text cs (.items vs) rest) : Ends cs := by
  cases h with
  | endItems hb => exact hb.ends (ends_cons (by decide) _)
  | item hb _ _ _ => exact hb.ends (ends_cons (by decide) _)

lemma members_ends {ms : List (List Char × Raw)} (h : Text cs (.members ms) rest) : Ends cs := by
  cases h with
  | endMembers hb => exact hb.ends (ends_cons (by decide) _)
  | member hb _ _ _ _ => exact hb.ends (ends_cons (by decide) _)

variable {v : Raw}

lemma starts (h : Text cs (.value v) rest) :
    ∃ c cs', cs = c :: cs' ∧ isBlank c = false ∧ c ≠ ']' := by
  cases h with
  | number hn =>
    obtain ⟨c, cs', rfl, hc⟩ := hn.starts
    exact ⟨c, cs', rfl, isBlank_of_numeral hc, numeral_ne hc rfl (by decide)⟩
  | _ => exact ⟨_, _, rfl, rfl, by decide⟩

lemma object_starts {ms : List (List Char × Raw)} (h : Text cs (.value (.object ms)) rest) :
    ∃ cs', cs = '\x7b' :: cs' := by
  cases h <;> exact ⟨_, rfl⟩

lemma skipBlank_eq (h : Text cs (.value v) rest) {cs₀ : List Char} (hb : Blanks cs₀ cs) :
    skipBlank cs₀ = cs := by
  obtain ⟨c, cs', rfl, hc, -⟩ := h.starts
  exact hb.skipBlank_cons hc

end Text

/-! ### Values of which all strings can be read -/

inductive Denotes : Stretch → Json.Stretch → Prop
  | null : Denotes (.value .null) (.value .null)
  | boolean {b} : Denotes (.value (.boolean b)) (.value (.boolean b))
  | number {t} : Denotes (.value (.number t)) (.value (.number t))
  | string {body s} : unescape body = .ok s → Denotes (.value (.string body)) (.value (.string s))
  | list {rs vs} : Denotes (.items rs) (.items vs) →
      Denotes (.value (.list rs)) (.value (.list vs))
  | noItem : Denotes (.items []) (.items [])
  | item {r v rs vs} : Denotes (.value r) (.value v) → Denotes (.items rs) (.items vs) →
      Denotes (.items (r :: rs)) (.items (v :: vs))
  | object {rs ms} : Denotes (.members rs) (.members ms) →
      Denotes (.value (.object rs)) (.value (.object ms))
  | noMember : Denotes (.members []) (.members [])
  | member {body name r v rs ms} : unescape body = .ok name → Denotes (.value r) (.value v) →
      Denotes (.members rs) (.members ms) →
      Denotes (.members ((body, r) :: rs)) (.members ((name, v) :: ms))

namespace Denotes

variable {raw : Stretch}

lemma exists_value {v : Value} (h : Denotes raw (.value v)) : ∃ r, raw = .value r := by
  cases h <;> exact ⟨_, rfl⟩

lemma exists_items {vs : List Value} (h : Denotes raw (.items vs)) : ∃ rs, raw = .items rs := by
  cases h <;> exact ⟨_, rfl⟩

lemma exists_members {ms : List (String × Value)} (h : Denotes raw (.members ms)) :
    ∃ rs, raw = .members rs := by
  cases h <;> exact ⟨_, rfl⟩

end Denotes

end Raw

lemma Key.exists_raw {cs rest : List Char} {name : String} (h : Key cs name rest) :
    ∃ body, Raw.Key cs body rest ∧ unescape body = .ok name := by
  cases h with
  | mk hquote hchars hcolon =>
    obtain ⟨body, rfl, hbody, hname⟩ := hchars.exists_body
    refine ⟨body, .mk hquote hbody hcolon, ?_⟩
    rw [hname, String.ofList_toList]

lemma Text.exists_raw {cs rest : List Char} {stretch : Stretch} (h : Text cs stretch rest) :
    ∃ raw, Raw.Text cs raw rest ∧ Raw.Denotes raw stretch := by
  induction h with
  | null => exact ⟨_, .null, .null⟩
  | trueWord => exact ⟨_, .trueWord, .boolean⟩
  | falseWord => exact ⟨_, .falseWord, .boolean⟩
  | number hn => exact ⟨_, .number hn, .number⟩
  | string hs =>
    obtain ⟨body, rfl, hbody, hname⟩ := hs.exists_body
    rw [String.ofList_toList] at hname
    exact ⟨_, .string hbody, .string hname⟩
  | emptyList hb => exact ⟨_, .emptyList hb, .list .noItem⟩
  | list hb _ _ ihv ihvs =>
    obtain ⟨_, hv, hdv⟩ := ihv
    obtain ⟨_, hvs, hdvs⟩ := ihvs
    obtain ⟨r, rfl⟩ := hdv.exists_value
    obtain ⟨rs, rfl⟩ := hdvs.exists_items
    exact ⟨_, .list hb hv hvs, .list (.item hdv hdvs)⟩
  | endItems hb => exact ⟨_, .endItems hb, .noItem⟩
  | item hb hb₁ _ _ ihv ihvs =>
    obtain ⟨_, hv, hdv⟩ := ihv
    obtain ⟨_, hvs, hdvs⟩ := ihvs
    obtain ⟨r, rfl⟩ := hdv.exists_value
    obtain ⟨rs, rfl⟩ := hdvs.exists_items
    exact ⟨_, .item hb hb₁ hv hvs, .item hdv hdvs⟩
  | emptyObject hb => exact ⟨_, .emptyObject hb, .object .noMember⟩
  | object hk hb _ _ ihv ihms =>
    obtain ⟨body, hkey, hname⟩ := hk.exists_raw
    obtain ⟨_, hv, hdv⟩ := ihv
    obtain ⟨_, hms, hdms⟩ := ihms
    obtain ⟨r, rfl⟩ := hdv.exists_value
    obtain ⟨rs, rfl⟩ := hdms.exists_members
    exact ⟨_, .object hkey hb hv hms, .object (.member hname hdv hdms)⟩
  | endMembers hb => exact ⟨_, .endMembers hb, .noMember⟩
  | member hb hk hb₁ _ _ ihv ihms =>
    obtain ⟨body, hkey, hname⟩ := hk.exists_raw
    obtain ⟨_, hv, hdv⟩ := ihv
    obtain ⟨_, hms, hdms⟩ := ihms
    obtain ⟨r, rfl⟩ := hdv.exists_value
    obtain ⟨rs, rfl⟩ := hdms.exists_members
    exact ⟨_, .member hb hkey hb₁ hv hms, .member hname hdv hdms⟩

lemma Document.exists_raw {text : String} {v : Value} (h : Document text v) :
    ∃ r, Raw.Document text r ∧ Raw.Denotes (.value r) (.value v) := by
  cases h with
  | mk hb htext hend =>
    obtain ⟨_, hraw, hdenotes⟩ := htext.exists_raw
    obtain ⟨r, rfl⟩ := hdenotes.exists_value
    exact ⟨r, .mk hb hraw hend, hdenotes⟩

end ExportLint.Json

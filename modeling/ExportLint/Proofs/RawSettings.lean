import ExportLint.Proofs.JsonPassing
import ExportLint.Settings.Reader

/-! What is read of a document that is an object depends on its members alone, as they are written.
They are read one by one, each to its end or to the first fault in it, whatever follows. -/

namespace ExportLint.Settings

open Json (Fault Blanks Ends Raw unescape)
open Json.Raw (Text Document)
open Reader

/-- What is read of a value where a level should stand. -/
def levelOf : Raw → Except ReadError Level
  | .string body => lift (unescape body) >>= levelOfName
  | .number t => lift t.value >>= levelOfNumber
  | v => do
    lift (v.check .full 0)
    .error .levelType

def addLevel (s : Settings) (m : List Char × Raw) : Except ReadError Settings := do
  let name ← lift (unescape m.1)
  let level ← levelOf m.2
  return s.set name level

def foundIn : Raw → Except Fault Found
  | .null => .ok .null
  | .boolean value => .ok (.boolean value)
  | .number t => t.value.map .number
  | .string body => (unescape body).map .string
  | .list _ => .ok .list
  | .object _ => .ok .object

/-- What is read of a value where the object of levels should stand. -/
def rulesOf : Raw → Except ReadError Settings
  | .object ms => ms.foldlM addLevel empty
  | v => do
    let found ← lift (foundIn v)
    .error (.wrongType found .rules)

/-- What a member adds to the settings read so far, if any. -/
def readMember (s? : Option Settings) (m : List Char × Raw) :
    Except ReadError (Option Settings) := do
  let name ← lift (unescape m.1)
  if name = "rules" then
    if s?.isSome then .error .repeatedRules
    else
      let s ← rulesOf m.2
      return some s
  else return s?

/-! ### Values -/

section Values

variable {before cs rest : List Char} {v : Raw}

lemma level_passed (h : Text cs (.value v) rest) (hb : Blanks before cs) (hr : Ends rest)
    {c : Char} {cs' : List Char} (hcs : cs = c :: cs') (hq : c ≠ '"')
    (hn : (c == '-' || c.isDigit) = false) :
    level before = (lift (v.check .full 0) >>= fun _ =>
      (.error .levelType : Except ReadError Level)).map fun l => (l, rest) := by
  have hpast := h.passValue_eq .full .none hr
  rw [level, h.skipBlank_eq hb]
  subst hcs
  split
  · rename_i heq
    exact (hq (List.cons.inj heq).1).elim
  · simp only [List.head?_cons, Option.map_some, Option.getD_some, hn, hpast]
    cases v.check .full 0 <;> rfl

lemma level_number {t : Json.NumberText} (h : Json.Number cs t rest) (hb : Blanks before cs)
    (hr : Ends rest) :
    level before = (lift t.value >>= levelOfNumber).map fun l => (l, rest) := by
  have hnumber := Json.number_eq h hr
  obtain ⟨c, cs', rfl, hc⟩ := h.starts
  have hhead : (c == '-' || c.isDigit) = true := by simpa using hc
  have hq : c ≠ '"' := Json.numeral_ne hc rfl (by decide)
  rw [level, hb.skipBlank_cons (Json.isBlank_of_numeral hc)]
  split
  · rename_i heq
    exact (hq (List.cons.inj heq).1).elim
  · simp only [List.head?_cons, Option.map_some, hhead, Option.getD_some, if_pos, hnumber]
    cases t.value with
    | error fault => rfl
    | ok x =>
      change (levelOfNumber x >>= fun l => pure (l, rest)) = (levelOfNumber x).map _
      cases levelOfNumber x <;> rfl

lemma level_eq (h : Text cs (.value v) rest) (hb : Blanks before cs) (hr : Ends rest) :
    level before = (levelOf v).map fun l => (l, rest) := by
  have hpassed := @level_passed before cs rest v h hb hr
  cases h with
  | string hbody =>
    rw [level, hb.skipBlank_cons rfl]
    simp only [hbody.string_eq, levelOf]
    cases unescape _ with
    | error fault => rfl
    | ok name =>
      change (levelOfName name >>= fun l => pure (l, rest)) = (levelOfName name).map _
      cases levelOfName name <;> rfl
  | number hn => exact level_number hn hb hr
  | _ => exact hpassed rfl (by decide) rfl

lemma found_eq (h : Text cs (.value v) rest) (hr : Ends rest) : found cs = foundIn v := by
  cases h with
  | null | trueWord | falseWord => simp [found, foundIn, Json.word, Except.map]
  | string hbody =>
    simp only [found, foundIn, hbody.string_eq]
    cases unescape _ <;> rfl
  | number hn =>
    have hnumber := Json.number_eq hn hr
    obtain ⟨c, cs', rfl, hc⟩ := hn.starts
    rw [found]
    · rw [if_pos hc, hnumber, foundIn]
      cases Json.NumberText.value _ <;> rfl
    all_goals exact Json.numeral_ne hc rfl (by decide)
  | emptyList _ | list _ _ _ | emptyObject _ | object _ _ _ _ => rfl

lemma rules_refused (h : Text cs (.value v) rest) (hb : Blanks before cs) (hr : Ends rest)
    {c : Char} {cs' : List Char} (hcs : cs = c :: cs') (hc : c ≠ '\x7b') :
    rules before = (lift (foundIn v) >>= fun found =>
      (.error (.wrongType found .rules) : Except ReadError Settings)).map fun s => (s, rest) := by
  have hfound := found_eq h hr
  rw [rules, h.skipBlank_eq hb]
  subst hcs
  split
  · rename_i heq
    cases heq
  · rename_i heq
    exact (hc (List.cons.inj heq).1).elim
  · rw [refuse, hfound]
    cases foundIn v <;> rfl

end Values

/-! ### Members -/

section Members

variable {cs cs₁ cs₂ rest body : List Char} {v : Raw} {ms : List (List Char × Raw)}

/-- A key comes next, and `rest` is the text behind its colon. -/
def AtKey (first : Bool) (cs body rest : List Char) : Prop :=
  ∃ cs₁, nextKey first cs = (unescape body).map (fun name => (some name, cs₁)) ∧
    Json.pastColon cs₁ = .ok rest

lemma atKey_first (h : Raw.Key cs body rest) : AtKey true cs body rest := by
  obtain ⟨cs₁, hquote, hbody, hcolon⟩ := h.skipBlank_eq
  refine ⟨cs₁, ?_, hcolon⟩
  simp only [nextKey, hquote, hbody.string_eq]
  cases unescape body <;> rfl

lemma atKey_more (hb : Blanks cs (',' :: cs₁)) (h : Raw.Key cs₁ body rest) :
    AtKey false cs body rest := by
  obtain ⟨cs₂, hquote, hbody, hcolon⟩ := h.skipBlank_eq
  refine ⟨cs₂, ?_, hcolon⟩
  simp only [nextKey, hb.skipBlank_cons rfl, hquote, hbody.string_eq]
  cases unescape body <;> rfl

lemma nextKey_end (first : Bool) (hb : Blanks cs ('\x7d' :: rest)) :
    nextKey first cs = .ok (none, rest) := by
  unfold nextKey
  rw [hb.skipBlank_cons rfl]
  rfl

/-- A loop that reads the members of an object, by what it does at a member and at the end. -/
structure ReadsMembers {σ : Type}
    (loop : Nat → Bool → σ → List Char → Except ReadError (Settings × List Char))
    (step : σ → List Char × Raw → Except ReadError σ) (done : σ → Settings) : Prop where
  atEnd {cs rest : List Char} (fuel : Nat) (first : Bool) (s : σ) : Blanks cs ('\x7d' :: rest) →
    loop (fuel + 1) first s cs = .ok (done s, rest)
  atMember {first : Bool} {cs cs₁ cs₂ rest body : List Char} {v : Raw} (fuel : Nat) (s : σ) :
    AtKey first cs body cs₁ → Blanks cs₁ cs₂ → Text cs₂ (.value v) rest → Ends rest →
    loop (fuel + 1) first s cs = step s (body, v) >>= fun s => loop fuel false s rest

namespace ReadsMembers

variable {σ : Type} {loop : Nat → Bool → σ → List Char → Except ReadError (Settings × List Char)}
  {step : σ → List Char × Raw → Except ReadError σ} {done : σ → Settings}

lemma members (hloop : ReadsMembers loop step done) (h : Text cs (.members ms) rest) {fuel : Nat}
    (hfuel : ms.length < fuel) (s : σ) :
    loop fuel false s cs = (ms.foldlM step s).map fun s => (done s, rest) := by
  induction ms generalizing cs fuel s with
  | nil =>
    obtain ⟨fuel, rfl⟩ := Nat.exists_eq_add_one_of_ne_zero (Nat.ne_of_gt hfuel)
    cases h with
    | endMembers hb => exact hloop.atEnd fuel false s hb
  | cons m ms ih =>
    obtain ⟨fuel, rfl⟩ := Nat.exists_eq_add_one_of_ne_zero (Nat.ne_zero_of_lt hfuel)
    cases h with
    | member hb hk hb₁ hv hms =>
      rw [hloop.atMember fuel s (atKey_more hb hk) hb₁ hv hms.members_ends, List.foldlM_cons]
      cases step s _ with
      | error e => rfl
      | ok s => exact ih hms (Nat.lt_of_succ_lt_succ hfuel) s

lemma object (hloop : ReadsMembers loop step done)
    (h : Text ('\x7b' :: cs) (.value (.object ms)) rest) (s : σ) :
    loop (cs.length + 1) true s cs = (ms.foldlM step s).map fun s => (done s, rest) := by
  cases h with
  | emptyObject hb => exact hloop.atEnd _ true s hb
  | object hk hb hv hms =>
    have h₁ := hk.length_lt
    have h₂ := hb.length_le
    have h₃ := hv.length_lt
    have h₄ := hms.length_members_lt
    rw [hloop.atMember cs.length s (atKey_first hk) hb hv hms.members_ends, List.foldlM_cons]
    cases step s _ with
    | error e => rfl
    | ok s => exact hloop.members hms (by omega) s

end ReadsMembers

lemma levelsFrom_reads : ReadsMembers levelsFrom addLevel id where
  atEnd fuel first s hb := by
    rw [levelsFrom, nextKey_end first hb]
    rfl
  atMember fuel s hk hb h hr := by
    obtain ⟨cs', hkey, hcolon⟩ := hk
    rw [levelsFrom, hkey, addLevel]
    cases unescape _ with
    | error fault => rfl
    | ok name =>
      simp only [lift, bind, Except.bind, Except.map, hcolon, level_eq h hb hr]
      cases levelOf _ <;> rfl

lemma rules_eq {before : List Char} (h : Text cs (.value v) rest) (hb : Blanks before cs)
    (hr : Ends rest) : rules before = (rulesOf v).map fun s => (s, rest) := by
  have hrefused := @rules_refused before cs rest v h hb hr
  have hobject {cs' ms} (hcs : cs = '\x7b' :: cs') (hv : v = .object ms) :
      rules before = (rulesOf (.object ms)).map fun s => (s, rest) := by
    subst hcs hv
    rw [rules, hb.skipBlank_cons rfl]
    exact levelsFrom_reads.object h empty
  cases h with
  | number hn =>
    obtain ⟨c, cs', rfl, hc⟩ := hn.starts
    exact hrefused rfl (Json.numeral_ne hc rfl (by decide))
  | emptyObject _ => exact hobject rfl rfl
  | object _ _ _ _ => exact hobject rfl rfl
  | _ => exact hrefused rfl (by decide)

lemma membersFrom_reads : ReadsMembers membersFrom readMember (·.getD empty) where
  atEnd fuel first s? hb := by
    rw [membersFrom, nextKey_end first hb]
    rfl
  atMember fuel s? hk hb h hr := by
    obtain ⟨cs', hkey, hcolon⟩ := hk
    rw [membersFrom, hkey, readMember]
    cases unescape _ with
    | error fault => rfl
    | ok name =>
      have hpast := h.passValue_eq .passing hb hr
      rw [Raw.check_passing] at hpast
      simp only [lift, bind, Except.bind, Except.map, hcolon, rules_eq h hb hr, hpast]
      by_cases hname : name = "rules"
      · cases s? with
        | some s => simp [hname]
        | none =>
          simp only [hname]
          cases rulesOf _ <;> rfl
      · simp only [if_neg hname]
        rfl

end Members

lemma read_eq {text : String} {ms : List (List Char × Raw)} (h : Document text (.object ms)) :
    read text = (ms.foldlM readMember none).map (·.getD empty) := by
  cases h with
  | mk hb htext hend =>
    obtain ⟨cs', rfl⟩ := htext.object_starts
    have hdocument : Reader.document text.toList = membersFrom (cs'.length + 1) true none cs' := by
      rw [Reader.document, hb.skipBlank_cons rfl]
      rfl
    rw [read, hdocument, membersFrom_reads.object htext]
    cases ms.foldlM readMember none with
    | error e => rfl
    | ok s? =>
      simp only [bind, Except.bind, Except.map, hend.skipBlank_eq]
      rfl

end ExportLint.Settings

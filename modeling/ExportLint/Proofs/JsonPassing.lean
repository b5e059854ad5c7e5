import ExportLint.Proofs.RawJson

/-! Passing over a value leads to the end of its text or to the first fault in it, step by step, and
in fewer steps than twice the characters of the text. With full care there is no fault in a value
within the limits; without, there is none in any value. -/

namespace ExportLint.Json

/-- At most `depth` brackets are open at once in a value, and its numbers are in range. -/
inductive Value.Within : Nat → Value → Prop
  | null {depth} : Within depth .null
  | boolean {depth b} : Within depth (.boolean b)
  | number {depth t x} : t.value = .ok x → Within depth (.number t)
  | string {depth s} : Within depth (.string s)
  | list {depth vs} : (∀ v ∈ vs, Within depth v) → Within (depth + 1) (.list vs)
  | object {depth ms} : (∀ m ∈ ms, Within depth m.2) → Within (depth + 1) (.object ms)

/-- Whether one more bracket may be opened. -/
def Care.deepen (care : Care) (opened : Nat) : Except Fault Unit :=
  if care = .full ∧ maxDepth ≤ opened then .error .tooDeep else .ok ()

namespace Raw

mutual

/-- The first fault in a value, where a number of brackets is open. -/
def check (care : Care) : Nat → Raw → Except Fault Unit
  | _, .null => .ok ()
  | _, .boolean _ => .ok ()
  | _, .number t => care.demand t.value
  | _, .string body => care.demand (unescape body)
  | opened, .list vs => do
    care.deepen opened
    checkItems care (opened + 1) vs
  | opened, .object ms => do
    care.deepen opened
    checkMembers care (opened + 1) ms

def checkItems (care : Care) (opened : Nat) : List Raw → Except Fault Unit
  | [] => .ok ()
  | v :: vs => do
    v.check care opened
    checkItems care opened vs

def checkMembers (care : Care) (opened : Nat) : List (List Char × Raw) → Except Fault Unit
  | [] => .ok ()
  | (body, v) :: ms => do
    care.demand (unescape body)
    v.check care opened
    checkMembers care opened ms

end

mutual

lemma check_passing (opened : Nat) : ∀ v : Raw, v.check .passing opened = .ok ()
  | .null => rfl
  | .boolean _ => rfl
  | .number _ => rfl
  | .string _ => rfl
  | .list vs => by
    rw [check, checkItems_passing (opened + 1) vs]
    rfl
  | .object ms => by
    rw [check, checkMembers_passing (opened + 1) ms]
    rfl

lemma checkItems_passing (opened : Nat) : ∀ vs : List Raw, checkItems .passing opened vs = .ok ()
  | [] => rfl
  | v :: vs => by
    rw [checkItems, check_passing opened v]
    exact checkItems_passing opened vs

lemma checkMembers_passing (opened : Nat) :
    ∀ ms : List (List Char × Raw), checkMembers .passing opened ms = .ok ()
  | [] => rfl
  | (body, v) :: ms => by
    rw [checkMembers, check_passing opened v]
    exact checkMembers_passing opened ms

end

def Stretch.check (care : Care) (opened : Nat) : Stretch → Except Fault Unit
  | .value v => v.check care opened
  | .items vs => checkItems care opened vs
  | .members ms => checkMembers care opened ms

end Raw

/-! ### Values within the limits -/

def Stretch.Within (depth : Nat) : Stretch → Prop
  | .value v => v.Within depth
  | .items vs => ∀ v ∈ vs, v.Within depth
  | .members ms => ∀ m ∈ ms, m.2.Within depth

lemma deepen_eq {opened depth : Nat} (h : opened + (depth + 1) ≤ maxDepth) (care : Care) :
    care.deepen opened = .ok () :=
  if_neg (by omega)

lemma demand_eq {α : Type} {read : Except Fault α} {a : α} (h : read = .ok a) (care : Care) :
    care.demand read = .ok () := by
  subst h
  cases care <;> rfl

lemma Raw.Denotes.check_eq {raw : Raw.Stretch} {stretch : Json.Stretch}
    (h : Denotes raw stretch) (care : Care) {depth opened : Nat} (hwithin : stretch.Within depth)
    (hopened : opened + depth ≤ maxDepth) : raw.check care opened = .ok () := by
  induction h generalizing depth opened with
  | null | boolean | noItem | noMember => rfl
  | number =>
    cases hwithin with
    | number hvalue => exact demand_eq hvalue care
  | string hs => exact demand_eq hs care
  | list _ ih =>
    cases hwithin with
    | list hvs =>
      have hitems : checkItems care (opened + 1) _ = .ok () := ih hvs (by omega)
      rw [Stretch.check, check, deepen_eq hopened, hitems]
      rfl
  | item _ _ ihv ihvs =>
    have hboth := List.forall_mem_cons.mp hwithin
    have hvalue : Raw.check care opened _ = .ok () := ihv hboth.1 hopened
    have hitems : checkItems care opened _ = .ok () := ihvs hboth.2 hopened
    rw [Stretch.check, checkItems, hvalue, hitems]
    rfl
  | object _ ih =>
    cases hwithin with
    | object hms =>
      have hmembers : checkMembers care (opened + 1) _ = .ok () := ih hms (by omega)
      rw [Stretch.check, check, deepen_eq hopened, hmembers]
      rfl
  | member hname _ _ ihv ihms =>
    have hboth := List.forall_mem_cons.mp hwithin
    have hvalue : Raw.check care opened _ = .ok () := ihv hboth.1 hopened
    have hmembers : checkMembers care opened _ = .ok () := ihms hboth.2 hopened
    rw [Stretch.check, checkMembers, demand_eq hname, hvalue, hmembers]
    rfl

/-! ### Steps -/

namespace Place

variable {care : Care}

/-- A number of steps lead from one place to another, unless a fault is found on the way. -/
def Leads (care : Care) (n : Nat) (p : Place) (found : Except Fault Unit) (q : Place) : Prop :=
  ∀ fuel, p.run care (fuel + n) = found >>= fun _ => q.run care fuel

namespace Leads

variable {n m : Nat} {p q r : Place} {found found' : Except Fault Unit}

lemma trans (hpq : Leads care n p found q) (hqr : Leads care m q found' r) :
    Leads care (n + m) p (found >>= fun _ => found') r := by
  intro fuel
  rw [Nat.add_comm n m, ← Nat.add_assoc, hpq]
  cases found with
  | error fault => rfl
  | ok u => exact hqr fuel

lemma after (hpq : Leads care n p (.ok ()) q) (hqr : Leads care m q found r) :
    Leads care (n + m) p found r :=
  hpq.trans hqr

end Leads

lemma leads_of_step {p q : Place} {found : Except Fault Unit}
    (h : p.step? care = found.map fun _ => some q) : Leads care 1 p found q := by
  intro fuel
  rw [run, h]
  cases found <;> rfl

lemma leads_of_passItem {opened : List Bracket} {cs : List Char} {q : Place}
    {found : Except Fault Unit}
    (h : passItem care ⟨.value, opened, cs⟩ = found.map fun _ => q) :
    Leads care 1 ⟨.value, opened, cs⟩ found q := by
  apply leads_of_step
  rw [step?, h]
  cases found <;> rfl

variable {opened : List Bracket} {cs rest : List Char}

lemma leads_end (b : Bracket) {e : Expecting} (he : e ≠ .value)
    (h : skipBlank cs = closing b :: rest) :
    Leads care 1 ⟨e, b :: opened, cs⟩ (.ok ()) ⟨.next, opened, rest⟩ := by
  apply leads_of_step
  cases e with
  | value => exact (he rfl).elim
  | first => simp [step?, h, Except.map]
  | next => simp [step?, h, Except.map]

def opening : Bracket → Char
  | .list => '['
  | .object => '\x7b'

lemma leads_open (b : Bracket) (h : skipBlank cs = opening b :: rest) :
    Leads care 1 ⟨.value, opened, cs⟩ (care.deepen opened.length) ⟨.first, b :: opened, rest⟩ := by
  have hopen : passItem care ⟨.value, opened, cs⟩ =
      openBracket care b ⟨.value, opened, cs⟩ rest := by
    cases b <;> simp [passItem, h, opening]
  apply leads_of_passItem
  rw [hopen, openBracket, Care.deepen]
  split <;> rfl

lemma leads_empty (b : Bracket) {cs₁ : List Char} (h : skipBlank cs = opening b :: cs₁)
    (h₁ : skipBlank cs₁ = closing b :: rest) :
    Leads care 2 ⟨.value, opened, cs⟩ (care.deepen opened.length >>= fun _ => .ok ())
      ⟨.next, opened, rest⟩ :=
  (leads_open b h).trans (leads_end b (by simp) h₁)

lemma leads_past (past : Except Fault (List Char)) {found : Except Fault Unit}
    (h : passItem care ⟨.value, opened, cs⟩ = past.map fun cs => ⟨.next, opened, cs⟩)
    (hpast : past = found.map fun _ => rest) :
    Leads care 1 ⟨.value, opened, cs⟩ found ⟨.next, opened, rest⟩ := by
  apply leads_of_passItem
  rw [h, hpast]
  cases found <;> rfl

lemma leads_first_item {c : Char} (h : skipBlank cs = c :: rest) (hc : c ≠ ']') :
    Leads care 1 ⟨.first, .list :: opened, cs⟩ (.ok ()) ⟨.value, .list :: opened, c :: rest⟩ := by
  apply leads_of_step
  simp [step?, h, closing, hc, afterOpening, Except.map]

lemma leads_item {cs₁ : List Char} {c : Char} (h : skipBlank cs = ',' :: cs₁)
    (h₁ : skipBlank cs₁ = c :: rest) (hc : c ≠ ']') :
    Leads care 1 ⟨.next, .list :: opened, cs⟩ (.ok ()) ⟨.value, .list :: opened, c :: rest⟩ := by
  have hcomma : afterComma care .list cs₁ = .ok (c :: rest) := by
    cases care with
    | full => simp [afterComma, h₁, hc]
    | passing => simp [afterComma, h₁]
  apply leads_of_step
  simp [step?, h, closing, hcomma, Except.map]

lemma pastKey_eq {body : List Char} (h : Raw.Key cs body rest) (care : Care) :
    ∃ cs₁, skipBlank cs = '"' :: cs₁ ∧
      pastKey care cs₁ = (care.demand (unescape body)).map fun _ => rest := by
  obtain ⟨cs₁, hquote, hbody, hcolon⟩ := h.skipBlank_eq
  refine ⟨_, hquote, ?_⟩
  rw [pastKey, pastString_eq hbody]
  cases care.demand (unescape body) with
  | error fault => rfl
  | ok u => exact hcolon

lemma leads_first_member {body : List Char} (h : Raw.Key cs body rest) :
    Leads care 1 ⟨.first, .object :: opened, cs⟩ (care.demand (unescape body))
      ⟨.value, .object :: opened, rest⟩ := by
  obtain ⟨cs₁, hquote, hkey⟩ := pastKey_eq h care
  apply leads_of_step
  simp only [step?, hquote, closing, afterOpening, hkey]
  cases care.demand (unescape body) <;> rfl

lemma leads_member {cs₁ body : List Char} (h : skipBlank cs = ',' :: cs₁)
    (h₁ : Raw.Key cs₁ body rest) :
    Leads care 1 ⟨.next, .object :: opened, cs⟩ (care.demand (unescape body))
      ⟨.value, .object :: opened, rest⟩ := by
  obtain ⟨cs₂, hquote, hkey⟩ := pastKey_eq h₁ care
  apply leads_of_step
  simp only [step?, h, closing, afterComma, hquote, hkey]
  cases care.demand (unescape body) <;> rfl

end Place

lemma passItem_number {care : Care} {opened : List Bracket} {cs cs' : List Char} {c : Char}
    (h : skipBlank cs = c :: cs') (hc : c = '-' ∨ c.isDigit) :
    passItem care ⟨.value, opened, cs⟩ =
      (pastNumber care (c :: cs')).map fun cs => ⟨.next, opened, cs⟩ := by
  simp only [passItem, h]
  split
  · rename_i heq
    cases heq
  all_goals rename_i heq; first
    | exact (numeral_ne hc rfl (by decide) (List.cons.inj heq).1).elim
    | skip
  obtain ⟨rfl, rfl⟩ := List.cons.inj heq
  rw [if_pos hc]

namespace Raw

open Place

/-- Passing over a stretch of text leads from before it to behind it, or to its first fault. -/
def Passed (care : Care) (cs : List Char) (stretch : Stretch) (rest : List Char) : Prop :=
  match stretch with
  | .value v => ∀ opened : List Bracket, Ends rest →
      ∃ n, n + 2 * rest.length < 2 * cs.length ∧ ∀ before, Blanks before cs →
        Leads care n ⟨.value, opened, before⟩ (v.check care opened.length) ⟨.next, opened, rest⟩
  | .items vs => ∀ opened : List Bracket,
      ∃ n, n + 2 * rest.length < 2 * cs.length ∧
        Leads care n ⟨.next, .list :: opened, cs⟩ (checkItems care (opened.length + 1) vs)
          ⟨.next, opened, rest⟩
  | .members ms => ∀ opened : List Bracket,
      ∃ n, n + 2 * rest.length < 2 * cs.length ∧
        Leads care n ⟨.next, .object :: opened, cs⟩ (checkMembers care (opened.length + 1) ms)
          ⟨.next, opened, rest⟩

lemma Text.passed {care : Care} {cs rest : List Char} {stretch : Stretch}
    (h : Text cs stretch rest) : Passed care cs stretch rest := by
  -- no stretch takes more than two steps for each of its characters, which bounds the fuel
  induction h with
  | null | trueWord | falseWord =>
    intro opened _
    refine ⟨1, by simp only [List.length_cons]; omega, fun before hb => ?_⟩
    apply leads_past (.ok _) _ rfl
    simp [passItem, hb.skipBlank_cons, isBlank, word]
  | @number cs t rest hn =>
    intro opened hr
    have hlen : rest.length < cs.length := hn.length_lt
    refine ⟨1, by omega, fun before hb => ?_⟩
    have hpast := pastNumber_eq hn hr care
    obtain ⟨c, cs', rfl, hc⟩ := hn.starts
    exact leads_past _ (passItem_number (hb.skipBlank_cons (isBlank_of_numeral hc)) hc) hpast
  | string hbody =>
    intro opened _
    refine ⟨1, by simp only [List.length_cons, List.length_append]; omega, fun before hb => ?_⟩
    apply leads_past _ _ (pastString_eq hbody care _)
    simp [passItem, hb.skipBlank_cons, isBlank]
  | emptyList hb =>
    intro opened _
    have hlen := hb.length_le
    simp only [List.length_cons] at hlen ⊢
    refine ⟨2, by omega, fun before hbefore => ?_⟩
    exact leads_empty .list (hbefore.skipBlank_cons rfl) (hb.skipBlank_cons rfl)
  | @list cs cs₁ cs₂ v vs rest hb hv hvs ihv ihvs =>
    intro opened _
    obtain ⟨n, hn, hvalue⟩ := ihv (.list :: opened) hvs.items_ends
    obtain ⟨m, hm, hitems⟩ := ihvs opened
    have hlen := hb.length_le
    obtain ⟨c, cs', rfl, hc, hend⟩ := hv.starts
    simp only [List.length_cons] at hlen hn ⊢
    refine ⟨1 + (1 + (n + m)), by omega, fun before hbefore => ?_⟩
    apply (leads_open .list (hbefore.skipBlank_cons rfl)).trans
    apply (leads_first_item (hb.skipBlank_cons hc) hend).after
    exact (hvalue _ .none).trans hitems
  | endItems hb =>
    intro opened
    have hlen := hb.length_le
    simp only [List.length_cons] at hlen
    exact ⟨1, by omega, leads_end .list (by simp) (hb.skipBlank_cons rfl)⟩
  | item hb hb₁ hv hvs ihv ihvs =>
    intro opened
    obtain ⟨n, hn, hvalue⟩ := ihv (.list :: opened) hvs.items_ends
    obtain ⟨m, hm, hitems⟩ := ihvs opened
    have hlen := hb.length_le
    have hlen₁ := hb₁.length_le
    obtain ⟨c, cs', rfl, hc, hend⟩ := hv.starts
    simp only [List.length_cons] at hlen hlen₁ hn
    refine ⟨1 + (n + m), by omega, ?_⟩
    apply (leads_item (hb.skipBlank_cons rfl) (hb₁.skipBlank_cons hc) hend).after
    exact (hvalue _ .none).trans hitems
  | emptyObject hb =>
    intro opened _
    have hlen := hb.length_le
    simp only [List.length_cons] at hlen ⊢
    refine ⟨2, by omega, fun before hbefore => ?_⟩
    exact leads_empty .object (hbefore.skipBlank_cons rfl) (hb.skipBlank_cons rfl)
  | object hk hb hv hms ihv ihms =>
    intro opened _
    obtain ⟨n, hn, hvalue⟩ := ihv (.object :: opened) hms.members_ends
    obtain ⟨m, hm, hmembers⟩ := ihms opened
    have hlen := hk.length_lt
    have hlen₁ := hb.length_le
    simp only [List.length_cons]
    refine ⟨1 + (1 + (n + m)), by omega, fun before hbefore => ?_⟩
    apply (leads_open .object (hbefore.skipBlank_cons rfl)).trans
    exact (leads_first_member hk).trans ((hvalue _ hb).trans hmembers)
  | endMembers hb =>
    intro opened
    have hlen := hb.length_le
    simp only [List.length_cons] at hlen
    exact ⟨1, by omega, leads_end .object (by simp) (hb.skipBlank_cons rfl)⟩
  | member hb hk hb₁ hv hms ihv ihms =>
    intro opened
    obtain ⟨n, hn, hvalue⟩ := ihv (.object :: opened) hms.members_ends
    obtain ⟨m, hm, hmembers⟩ := ihms opened
    have hlen := hb.length_le
    have hlen₁ := hk.length_lt
    have hlen₂ := hb₁.length_le
    simp only [List.length_cons] at hlen
    refine ⟨1 + (n + m), by omega, ?_⟩
    exact (leads_member (hb.skipBlank_cons rfl) hk).trans ((hvalue _ hb₁).trans hmembers)

lemma Text.passValue_eq {before cs rest : List Char} {v : Raw} (h : Text cs (.value v) rest)
    (care : Care) (hb : Blanks before cs) (hr : Ends rest) :
    passValue care before = (v.check care 0).map fun _ => rest := by
  obtain ⟨n, hn, hpassed⟩ := h.passed [] hr
  have hlen := hb.length_le
  obtain ⟨fuel, hfuel⟩ : ∃ fuel, 2 * before.length + 3 = fuel + 1 + n :=
    ⟨2 * before.length + 2 - n, by omega⟩
  rw [passValue, hfuel, hpassed before hb]
  cases v.check care 0 <;> rfl

end Raw

end ExportLint.Json

import ExportLint.Proofs.RawSettings
import ExportLint.Settings.Writer

/-! A document of levels is read level by level, in the order of its text, and up to the first value
that is no level. What the writer writes is such a document. -/

namespace ExportLint.Settings

open Json (Blanks Chars Text Document Raw)
open Reader

/-- What is read of a value where a level should stand. -/
def outcome : Json.Value → Except ReadError Level
  | .string name => levelOfName name
  | .number t => lift t.value >>= levelOfNumber
  | _ => .error .levelType

def enter (s : Settings) (m : String × Json.Value) : Except ReadError Settings :=
  (outcome m.2).map (s.set m.1)

/-- Up to the first value that is no level, all are within the limits of values that are read. -/
def Readable : List (String × Json.Value) → Prop
  | [] => True
  | m :: ms => m.2.Within Json.maxDepth ∧ ∀ level, outcome m.2 = .ok level → Readable ms

def document (ms : List (String × Json.Value)) : Json.Value := .object [("rules", .object ms)]

lemma levelOf_eq {r : Raw} {v : Json.Value} (h : Raw.Denotes (.value r) (.value v))
    (hv : v.Within Json.maxDepth) : levelOf r = outcome v := by
  have hcheck : r.check .full 0 = .ok () := h.check_eq .full hv (by omega)
  cases h with
  | string hs => rw [levelOf, hs, outcome]; rfl
  | number => rfl
  | _ => simp only [levelOf, hcheck, outcome]; rfl

lemma foldlM_addLevel {rs : List (List Char × Raw)} {ms : List (String × Json.Value)}
    (h : Raw.Denotes (.members rs) (.members ms)) (hr : Readable ms) (s : Settings) :
    rs.foldlM addLevel s = ms.foldlM enter s := by
  induction ms generalizing rs s with
  | nil =>
    cases h with
    | noMember => rfl
  | cons m ms ih =>
    cases h with
    | member hname hv hms =>
      rw [List.foldlM_cons, List.foldlM_cons, addLevel, enter, hname, levelOf_eq hv hr.1]
      cases hlevel : outcome _ with
      | error e => rfl
      | ok l => exact ih hms (hr.2 l hlevel) _

lemma read_document {text : String} {ms : List (String × Json.Value)}
    (h : Document text (document ms)) (hr : Readable ms) : read text = ms.foldlM enter empty := by
  obtain ⟨r, hraw, hdenotes⟩ := h.exists_raw
  cases hdenotes with
  | object hmembers =>
    cases hmembers with
    | member hname hrules hend =>
      cases hrules with
      | object hlevels =>
        cases hend with
        | noMember =>
          rw [read_eq hraw, List.foldlM_cons, readMember, hname, rulesOf, foldlM_addLevel hlevels hr]
          cases ms.foldlM enter empty <;> rfl

/-! ### Entering levels -/

lemma readable_append {before after : List (String × Json.Value)}
    (hbefore : ∀ m ∈ before, m.2.Within Json.maxDepth) (hafter : Readable after) :
    Readable (before ++ after) := by
  induction before with
  | nil => exact hafter
  | cons m before ih =>
    rw [List.forall_mem_cons] at hbefore
    exact ⟨hbefore.1, fun _ _ => ih hbefore.2⟩

lemma readable_of_within {ms : List (String × Json.Value)}
    (h : ∀ m ∈ ms, m.2.Within Json.maxDepth) : Readable ms := by
  have hnil : Readable (ms ++ []) := readable_append h trivial
  rwa [List.append_nil] at hnil

lemma foldlM_enter_of_ok {α : Type} {items : List α} {member : α → String × Json.Value}
    {levelOf : α → Level} (h : ∀ i ∈ items, outcome (member i).2 = .ok (levelOf i))
    (s : Settings) : (items.map member).foldlM enter s =
      .ok (items.foldl (fun s i => s.set (member i).1 (levelOf i)) s) := by
  induction items generalizing s with
  | nil => rfl
  | cons i items ih =>
    rw [List.forall_mem_cons] at h
    rw [List.map_cons, List.foldlM_cons, enter, h.1]
    exact ih h.2 _

lemma foldlM_enter_of_error {before after : List (String × Json.Value)} {m : String × Json.Value}
    {e : ReadError} (hbefore : ∀ m ∈ before, ∃ level, outcome m.2 = .ok level)
    (hm : outcome m.2 = .error e) (s : Settings) :
    (before ++ m :: after).foldlM enter s = .error e := by
  induction before generalizing s with
  | nil =>
    rw [List.nil_append, List.foldlM_cons, enter, hm]
    rfl
  | cons m' before ih =>
    rw [List.forall_mem_cons] at hbefore
    obtain ⟨level, hlevel⟩ := hbefore.1
    rw [List.cons_append, List.foldlM_cons, enter, hlevel]
    exact ih hbefore.2 _

/-! ### Written documents -/

lemma hex4?_control : ∀ n < 0x20, Json.hex4? '0' '0' (Writer.hexDigit (n / 16))
    (Writer.hexDigit (n % 16)) = some n := by
  decide

section Writer

variable {cs s rest : List Char}

lemma chars_escape (c : Char) (h : Chars cs s rest) :
    Chars (Writer.escape c ++ cs) (c :: s) rest := by
  unfold Writer.escape
  split
  · exact .escaped rfl h
  · exact .escaped rfl h
  · exact .escaped rfl h
  · exact .escaped rfl h
  · exact .escaped rfl h
  · exact .escaped rfl h
  · exact .escaped rfl h
  · rename_i hq hb _ _ _ _ _
    split
    · rename_i hc
      have hn : c.toNat < 0x20 := hc
      have hl : Json.isLeading c.toNat = false := by
        simp only [Json.isLeading, Bool.and_eq_false_iff, decide_eq_false_iff_not]
        omega
      have ht : Json.isTrailing c.toNat = false := by
        simp only [Json.isTrailing, Bool.and_eq_false_iff, decide_eq_false_iff_not]
        omega
      have hcode := Chars.code (hex4?_control c.toNat hn) hl ht h
      rwa [Char.ofNat_toNat] at hcode
    · rename_i hc
      exact .plain hq hb hc h

lemma chars_written (s rest : List Char) : Chars (s.flatMap Writer.escape ++ '"' :: rest) s rest := by
  induction s with
  | nil => exact .close
  | cons c s ih =>
    rw [List.flatMap_cons, List.append_assoc]
    exact chars_escape c ih

lemma text_string (s : String) (rest : List Char) :
    Text (Writer.string s ++ rest) (.value (.string s)) rest := by
  simpa [Writer.string] using Text.string (chars_written s.toList rest)

lemma key_written (name : String) (rest : List Char) :
    Json.Key (Writer.string name ++ ':' :: rest) name rest := by
  have hquote : Blanks (Writer.string name ++ ':' :: rest)
      ('"' :: (name.toList.flatMap Writer.escape ++ '"' :: ':' :: rest)) := by
    simpa [Writer.string] using Blanks.none
  exact .mk hquote (chars_written name.toList _) .none

end Writer

lemma intercalate_comma (l : List Char) (ls : List (List Char)) :
    [','].intercalate (l :: ls) = l ++ ls.flatMap (',' :: ·) := by
  induction ls generalizing l with
  | nil => simp
  | cons l' ls ih => rw [List.intercalate_cons_cons, ih]; simp

section Objects

variable {α : Type} (name : α → String) {text : α → List Char} {value : α → Json.Value}
  {items : List α}

lemma text_members (h : ∀ i ∈ items, ∀ rest, Text (text i ++ rest) (.value (value i)) rest)
    (rest : List Char) :
    Text ((items.map fun i => Writer.member (name i) (text i)).flatMap (',' :: ·) ++ '\x7d' :: rest)
      (.members (items.map fun i => (name i, value i))) rest := by
  induction items with
  | nil => exact .endMembers .none
  | cons i items ih =>
    rw [List.forall_mem_cons] at h
    rw [List.map_cons, List.map_cons, List.flatMap_cons]
    simp only [Writer.member, List.cons_append, List.append_assoc]
    exact .member .none (key_written (name i) _) .none (h.1 _) (ih h.2)

lemma text_object (h : ∀ i ∈ items, ∀ rest, Text (text i ++ rest) (.value (value i)) rest)
    (rest : List Char) :
    Text (Writer.object (items.map fun i => (name i, text i)) ++ rest)
      (.value (.object (items.map fun i => (name i, value i)))) rest := by
  rw [Writer.object, List.map_map]
  cases items with
  | nil => exact .emptyObject .none
  | cons i items =>
    rw [List.forall_mem_cons] at h
    rw [List.map_cons, List.map_cons, intercalate_comma]
    have hmembers := text_members name h.2 rest
    simp only [Function.comp_def, Writer.member, List.cons_append, List.append_assoc,
      List.nil_append] at hmembers ⊢
    exact .object (key_written (name i) _) .none (h.1 _) hmembers

lemma document_written (h : ∀ i ∈ items, ∀ rest, Text (text i ++ rest) (.value (value i)) rest) :
    Document (String.ofList (Writer.object
      [("rules", Writer.object (items.map fun i => (name i, text i)))]))
      (document (items.map fun i => (name i, value i))) := by
  have hrules : ∀ i ∈ [()], ∀ rest,
      Text (Writer.object (items.map fun i => (name i, text i)) ++ rest)
        (.value (.object (items.map fun i => (name i, value i)))) rest :=
    fun _ _ => text_object name h
  refine .mk ?_ (text_object (fun _ => "rules") hrules []) .none
  simpa using Blanks.none

end Objects

end ExportLint.Settings

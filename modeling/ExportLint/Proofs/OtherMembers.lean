import ExportLint.Proofs.RawSettings

/-! Settings may stand in a document among other things. Members with another name than `rules` are
passed over, whatever their values are, and leave no trace in what is read or refused. -/

namespace ExportLint.Settings

open Json (Chars Raw unescape)
open Json.Raw (Document)

/-- The key of a member stands for `name`. -/
def Named (m : List Char × Raw) (name : String) : Prop :=
  Chars (m.1 ++ ['"']) name.toList []

def Other (m : List Char × Raw) : Prop := ∃ name, name ≠ "rules" ∧ Named m name

/-- The second members are the first with others put in before, between and behind them. -/
inductive Padded : List (List Char × Raw) → List (List Char × Raw) → Prop
  | nil : Padded [] []
  | keep {m ms ms'} : Padded ms ms' → Padded (m :: ms) (m :: ms')
  | insert {m ms ms'} : Other m → Padded ms ms' → Padded ms (m :: ms')

section Padding

variable {before after ms ms' : List (List Char × Raw)} {m : List Char × Raw}

lemma Padded.others_append (hbefore : ∀ m ∈ before, Other m) (h : Padded ms ms') :
    Padded ms (before ++ ms') := by
  induction before with
  | nil => exact h
  | cons m before ih =>
    rw [List.forall_mem_cons] at hbefore
    exact .insert hbefore.1 (ih hbefore.2)

lemma padded_others (h : ∀ m ∈ ms, Other m) : Padded [] ms := by
  simpa using Padded.nil.others_append h

lemma padded_around (h : ∀ m ∈ before ++ after, Other m) : Padded [m] (before ++ m :: after) := by
  rw [List.forall_mem_append] at h
  exact (Padded.keep (padded_others h.2)).others_append h.1

lemma Named.unescape_eq {name : String} (h : Named m name) : unescape m.1 = .ok name := by
  have hstring : Json.string (m.1 ++ ['"']) = .ok (String.ofList name.toList, []) :=
    h.stringFrom_eq []
  rw [unescape, hstring, String.ofList_toList]
  rfl

lemma readMember_of_other (h : Other m) (s? : Option Settings) : readMember s? m = .ok s? := by
  obtain ⟨name, hne, hname⟩ := h
  rw [readMember, hname.unescape_eq]
  exact if_neg hne

lemma Padded.foldlM_readMember (h : Padded ms ms') (s? : Option Settings) :
    ms'.foldlM readMember s? = ms.foldlM readMember s? := by
  induction h generalizing s? with
  | nil => rfl
  | keep _ ih => simp only [List.foldlM_cons, ih]
  | insert hm _ ih =>
    rw [List.foldlM_cons, readMember_of_other hm]
    exact ih s?

end Padding

theorem other_members_ignored :
    (∀ (ms ms' : List (List Char × Raw)) (text text' : String), Document text (.object ms) →
      Document text' (.object ms') → Padded ms ms' → read text' = read text) ∧
    (∀ (before after : List (List Char × Raw)) (m : List Char × Raw) (text : String),
      Document text (.object (before ++ m :: after)) → Named m "rules" →
      (∀ o ∈ before ++ after, Other o) → read text = rulesOf m.2) ∧
    (∀ (ms : List (List Char × Raw)) (text : String), Document text (.object ms) →
      (∀ m ∈ ms, Other m) → read text = .ok empty) := by
  refine ⟨?_, ?_, ?_⟩
  · intro ms ms' text text' h h' hpadded
    rw [read_eq h, read_eq h', hpadded.foldlM_readMember]
  · intro before after m text h hname hothers
    rw [read_eq h, (padded_around hothers).foldlM_readMember, List.foldlM_cons, readMember,
      hname.unescape_eq]
    change ((rulesOf m.2 >>= fun s => pure (some s)) >>= pure).map _ = _
    cases rulesOf m.2 <;> rfl
  · intro ms text h hothers
    rw [read_eq h, (padded_others hothers).foldlM_readMember]
    rfl

def sevenRules : List Char × Raw :=
  (['r', 'u', 'l', 'e', 's'], .number ⟨false, ['7'], none, none⟩)

/-- A number out of range, and half of a surrogate pair under another key `rules`. -/
def notes : List Char × Raw :=
  (['x'], .list [.number ⟨false, ['9'], none, some (false, ['9', '9', '9'])⟩,
    .object [(['r', 'u', 'l', 'e', 's'], .string ['\\', 'u', 'd', '8', '0', '0'])]])

def sevenText : String := "\x7b\"rules\":7\x7d"

def notesText : String := "\x7b\"x\":[9e999,\x7b\"rules\":\"\\ud800\"\x7d]\x7d"

def sevenBehindNotes : String :=
  "\x7b\"x\":[9e999,\x7b\"rules\":\"\\ud800\"\x7d] ,\"rules\":7\x7d"

lemma other_notes : Other notes :=
  ⟨"x", by decide, .plain (by decide) (by decide) (by decide) .close⟩

lemma named_sevenRules : Named sevenRules "rules" := by
  repeat refine .plain (by decide) (by decide) (by decide) ?_
  exact .close

lemma key_sevenRules (rest : List Char) :
    Raw.Key ('"' :: 'r' :: 'u' :: 'l' :: 'e' :: 's' :: '"' :: ':' :: rest) sevenRules.1 rest := by
  have hbody : Json.Body sevenRules.1 := by
    repeat refine .plain (by decide) (by decide) (by decide) ?_
    exact .nil
  exact .mk .none hbody .none

lemma text_sevenRules (rest : List Char) :
    Raw.Text ('7' :: rest) (.value sevenRules.2) rest := by
  have hseven : Json.Whole ['7'] := .nonzero (by decide) ⟨by simp, by simp⟩
  exact .number (.positive hseven .absent .absent)

lemma text_notes {rest rest' : List Char} {ms : List (List Char × Raw)}
    (h : Raw.Text rest (.members ms) rest') :
    Raw.Text ('\x7b' :: '"' :: 'x' :: '"' :: ':' :: '[' :: '9' :: 'e' :: '9' :: '9' :: '9' :: ',' ::
      '\x7b' :: '"' :: 'r' :: 'u' :: 'l' :: 'e' :: 's' :: '"' :: ':' :: '"' :: '\\' :: 'u' :: 'd' ::
      '8' :: '0' :: '0' :: '"' :: '\x7d' :: ']' :: rest) (.value (.object (notes :: ms))) rest' := by
  have hx : Json.Body notes.1 := .plain (by decide) (by decide) (by decide) .nil
  have hnine : Json.Whole ['9'] := .nonzero (by decide) ⟨by simp, by simp⟩
  have hnines : Json.Digits ['9', '9', '9'] := ⟨by simp, by simp⟩
  have hhalf : Json.Body ['\\', 'u', 'd', '8', '0', '0'] := .code (n := 0xD800) rfl .nil
  refine .object (.mk .none hx .none) .none ?_ h
  refine .list .none (.number (.positive hnine .absent (.unsigned (.inl rfl) hnines)))
    (.item .none .none ?_ (.endItems .none))
  exact .object (key_sevenRules _) .none (.string hhalf) (.endMembers .none)

lemma document_sevenText : Document sevenText (.object [sevenRules]) := by
  have hchars : Json.Blanks sevenText.toList
      ['\x7b', '"', 'r', 'u', 'l', 'e', 's', '"', ':', '7', '\x7d'] := .none
  exact .mk hchars (.object (key_sevenRules _) .none (text_sevenRules _) (.endMembers .none)) .none

lemma document_notesText : Document notesText (.object [notes]) := by
  have hchars : Json.Blanks notesText.toList ['\x7b', '"', 'x', '"', ':', '[', '9', 'e', '9', '9',
      '9', ',', '\x7b', '"', 'r', 'u', 'l', 'e', 's', '"', ':', '"', '\\', 'u', 'd', '8', '0', '0',
      '"', '\x7d', ']', '\x7d'] := .none
  exact .mk hchars (text_notes (.endMembers .none)) .none

lemma document_sevenBehindNotes : Document sevenBehindNotes (.object [notes, sevenRules]) := by
  have hchars : Json.Blanks sevenBehindNotes.toList ['\x7b', '"', 'x', '"', ':', '[', '9', 'e',
      '9', '9', '9', ',', '\x7b', '"', 'r', 'u', 'l', 'e', 's', '"', ':', '"', '\\', 'u', 'd', '8',
      '0', '0', '"', '\x7d', ']', ' ', ',', '"', 'r', 'u', 'l', 'e', 's', '"', ':', '7', '\x7d'] :=
    .none
  have hseven : Raw.Text (' ' :: ',' :: '"' :: 'r' :: 'u' :: 'l' :: 'e' :: 's' :: '"' :: ':' ::
      '7' :: ['\x7d']) (.members [sevenRules]) [] :=
    .member (.more rfl .none) (key_sevenRules _) .none (text_sevenRules _) (.endMembers .none)
  exact .mk hchars (text_notes hseven) .none

theorem notes_ignored :
    Document sevenText (.object [sevenRules]) ∧
    Document sevenBehindNotes (.object [notes, sevenRules]) ∧
    read sevenBehindNotes = read sevenText ∧
    read sevenText = .error (.wrongType (.number (.natural 7)) .rules) ∧
    Document notesText (.object [notes]) ∧ read notesText = .ok empty := by
  obtain ⟨hpadded, hrules, hothers⟩ := other_members_ignored
  refine ⟨document_sevenText, document_sevenBehindNotes, ?_, ?_, document_notesText, ?_⟩
  · exact hpadded _ _ _ _ document_sevenText document_sevenBehindNotes
      (.insert other_notes (.keep .nil))
  · exact hrules [] [] sevenRules _ document_sevenText named_sevenRules (by simp)
  · exact hothers _ _ document_notesText (by simpa using other_notes)

end ExportLint.Settings

import ExportLint.Lint
import ExportLint.Proofs.Slices
import Mathlib.Data.List.Induction

/-! Places in a source, by line and column. Offsets between characters and the places they stand for
are the same in other words: a place is as far into the source as the lines above it, with their line
feeds, and the characters to its left. -/

namespace ExportLint

namespace Position

instance : LT Position where
  lt p q := p.line < q.line ∨ p.line = q.line ∧ p.column < q.column

lemma lt_iff {p q : Position} : p < q ↔ p.line < q.line ∨ p.line = q.line ∧ p.column < q.column :=
  Iff.rfl

lemma lt_trans {p q r : Position} (hpq : p < q) (hqr : q < r) : p < r := by
  rw [lt_iff] at *
  omega

lemma lt_next (p : Position) (c : Char) : p < p.next c := by
  rw [lt_iff, next]
  split <;> simp

lemma lt_foldl_next (p : Position) (c : Char) (cs : List Char) : p < (c :: cs).foldl next p := by
  induction cs generalizing p c with
  | nil => exact p.lt_next c
  | cons d cs ih => exact lt_trans (p.lt_next c) (ih (p.next c) d)

lemma after_append (cs ds : List Char) : after (cs ++ ds) = ds.foldl next (after cs) :=
  List.foldl_append

/-- The place is one of a text with so many characters. -/
structure Within (n : ℕ) (p : Position) : Prop where
  line : 1 ≤ p.line
  column : 1 ≤ p.column
  sum : p.line + p.column ≤ n + 2

lemma Within.next {n : ℕ} {p : Position} (h : p.Within n) (c : Char) : (p.next c).Within (n + 1) := by
  obtain ⟨hline, hcolumn, hsum⟩ := h
  unfold Position.next
  split
  · exact ⟨by simp, Nat.le_refl _, by simp; omega⟩
  · exact ⟨hline, by simp, by simp; omega⟩

lemma within_after (cs : List Char) : (after cs).Within cs.length := by
  induction cs using List.reverseRecOn with
  | nil => exact ⟨Nat.le_refl _, Nat.le_refl _, Nat.le_refl _⟩
  | append_singleton cs c ih =>
    rw [after_append, List.length_append]
    exact ih.next c

lemma Within.mono {m n : ℕ} {p : Position} (h : p.Within m) (hmn : m ≤ n) : p.Within n :=
  ⟨h.line, h.column, by have := h.sum; omega⟩

end Position

namespace Text

def lines (cs : List Char) : List (List Char) := cs.splitOn '\n'

def ended (ls : List (List Char)) : List Char := ls.flatMap (· ++ ['\n'])

lemma lines_ended_append {ls : List (List Char)} (h : ∀ l ∈ ls, '\n' ∉ l) (cs : List Char) :
    lines (ended ls ++ cs) = ls ++ lines cs := by
  induction ls with
  | nil => rfl
  | cons l ls ih =>
    rw [List.forall_mem_cons] at h
    have hl : ∀ c ∈ l, (c == '\n') = false := fun c hc => by
      rw [beq_eq_false_iff_ne]
      rintro rfl
      exact h.1 hc
    have hsplit : ended (l :: ls) ++ cs = l ++ '\n' :: (ended ls ++ cs) := by simp [ended]
    rw [hsplit, lines, List.splitOn_eq_splitOnP,
      List.splitOnP_append_cons_of_forall_mem hl '\n' rfl, ← List.splitOn_eq_splitOnP,
      List.cons_append, ← ih h.2, lines]

lemma lines_append {l : List Char} (h : '\n' ∉ l) (cs : List Char) :
    lines (l ++ cs) = (lines cs).modifyHead (l ++ ·) := by
  induction l with
  | nil =>
    rw [List.nil_append]
    cases lines cs <;> rfl
  | cons c l ih =>
    rw [List.mem_cons, not_or] at h
    have hc : (c == '\n') = false := beq_eq_false_iff_ne.mpr (Ne.symm h.1)
    rw [List.cons_append, lines, List.splitOn_cons_eq_if_modifyHead, hc, ← lines, ih h.2]
    simp [Function.comp_def]

/-- A text is its ended lines and the start of the next, and its end is the place behind them. -/
lemma exists_lines (cs : List Char) : ∃ ls l, cs = ended ls ++ l ∧ (∀ l ∈ ls, '\n' ∉ l) ∧
    '\n' ∉ l ∧ Position.after cs = ⟨ls.length + 1, l.length + 1⟩ := by
  induction cs using List.reverseRecOn with
  | nil => exact ⟨[], [], rfl, by simp, by simp, rfl⟩
  | append_singleton cs c ih =>
    obtain ⟨ls, l, rfl, hls, hl, hafter⟩ := ih
    rw [Position.after_append, hafter]
    by_cases hc : c = '\n'
    · subst hc
      refine ⟨ls ++ [l], [], by simp [ended], ?_, by simp, by simp [Position.next]⟩
      intro m hm
      rcases List.mem_append.mp hm with hm | hm
      · exact hls m hm
      · exact List.mem_singleton.mp hm ▸ hl
    · refine ⟨ls, l ++ [c], by simp, hls, ?_, by simp [Position.next, hc]⟩
      simpa [hl] using Ne.symm hc

lemma length_le_byteLength (cs : List Char) : cs.length ≤ byteLength cs := by
  induction cs with
  | nil => exact Nat.le_refl 0
  | cons c cs ih =>
    have hc := c.utf8Size_pos
    rw [List.length_cons, byteLength_cons]
    omega

lemma isValid_iff {source : String} {offset : ℕ} :
    String.Pos.Raw.IsValid source ⟨offset⟩ ↔
      ∃ before, takeBytes offset source.toList = some before := by
  simp only [String.Pos.Raw.isValid_iff_exists_append, takeBytes_eq_some_iff,
    String.Pos.Raw.ext_iff]
  constructor
  · rintro ⟨before, rest, rfl, rfl⟩
    exact ⟨before.toList, rest.toList, String.toList_append, byteLength_toList before⟩
  · rintro ⟨before, rest, hsource, rfl⟩
    refine ⟨String.ofList before, String.ofList rest, ?_, ?_⟩
    · rw [← String.ofList_append, ← hsource, String.ofList_toList]
    · rw [String.byteIdx_rawEndPos, ← byteLength_toList, String.toList_ofList]

end Text

namespace Position

/-- The place is in the text: the text has its line, and the line has a character to the left of it
for every column but the first. -/
def In (p : Position) (source : String) : Prop :=
  ∃ l, (Text.lines source.toList)[p.line - 1]? = some l ∧ p.column ≤ l.length + 1

/-- The bytes before a place: those of the lines above, with their line feeds, and those of the
characters to the left. -/
def offset (p : Position) (source : String) : ℕ :=
  let lines := Text.lines source.toList
  Text.byteLength (Text.ended (lines.take (p.line - 1))) +
    Text.byteLength ((lines.getD (p.line - 1) []).take (p.column - 1))

variable {source : String} {before rest : List Char}

lemma ofOffset_of_append (h : source.toList = before ++ rest) :
    ofOffset source (Text.byteLength before) = after before := by
  have htake : Text.takeBytes (Text.byteLength before) source.toList = some before :=
    Text.takeBytes_eq_some_iff.mpr ⟨rest, h, rfl⟩
  rw [ofOffset, htake, Option.getD_some]

lemma after_in (h : source.toList = before ++ rest) :
    (after before).In source ∧ (after before).offset source = Text.byteLength before := by
  obtain ⟨ls, l, rfl, hls, hl, hafter⟩ := Text.exists_lines before
  obtain ⟨m, ms, hrest⟩ := List.exists_cons_of_ne_nil (List.splitOn_ne_nil '\n' rest)
  have hlines : Text.lines source.toList = ls ++ (l ++ m) :: ms := by
    rw [h, List.append_assoc, Text.lines_ended_append hls, Text.lines_append hl, Text.lines, hrest,
      List.modifyHead_cons]
  constructor
  · refine ⟨l ++ m, ?_, ?_⟩
    · simp [hafter, hlines]
    · simp [hafter]
  · simp [offset, hafter, hlines, Text.byteLength_append]

lemma ofOffset_of_not_isValid {offset : ℕ} (h : ¬ String.Pos.Raw.IsValid source ⟨offset⟩) :
    ofOffset source offset = ofOffset source source.utf8ByteSize := by
  have hnone : Text.takeBytes offset source.toList = none := by
    rwa [Text.isValid_iff, ← Option.isSome_iff_exists, Option.not_isSome_iff_eq_none] at h
  rw [← Text.byteLength_toList, ofOffset_of_append (List.append_nil _).symm, ofOffset, hnone,
    Option.getD_none]

lemma ofOffset_lt {a b : ℕ} (ha : String.Pos.Raw.IsValid source ⟨a⟩)
    (hb : String.Pos.Raw.IsValid source ⟨b⟩) (hab : a < b) :
    ofOffset source a < ofOffset source b := by
  obtain ⟨before, ha⟩ := Text.isValid_iff.mp ha
  obtain ⟨before', hb⟩ := Text.isValid_iff.mp hb
  obtain ⟨rest, hsource, rfl⟩ := Text.takeBytes_eq_some_iff.mp ha
  obtain ⟨rest', hsource', rfl⟩ := Text.takeBytes_eq_some_iff.mp hb
  rw [ofOffset_of_append hsource, ofOffset_of_append hsource']
  -- of two beginnings of one text the one with fewer bytes is a beginning of the other
  rcases List.append_eq_append_iff.mp (hsource.symm.trans hsource') with
    ⟨ds, rfl, -⟩ | ⟨ds, rfl, -⟩
  · cases ds with
    | nil => simp at hab
    | cons d ds =>
      rw [after_append]
      exact lt_foldl_next _ d ds
  · rw [Text.byteLength_append] at hab
    omega

lemma within_ofOffset (source : String) (offset : ℕ) :
    (ofOffset source offset).Within source.length := by
  rw [← String.length_toList, ofOffset]
  cases htake : Text.takeBytes offset source.toList with
  | none => exact within_after source.toList
  | some before =>
    obtain ⟨rest, hsource, -⟩ := Text.takeBytes_eq_some_iff.mp htake
    refine (within_after before).mono ?_
    rw [hsource, List.length_append]
    exact Nat.le_add_right _ _

lemma lt_size_of_within {p : Position} (h : p.Within source.length)
    (hsource : source.utf8ByteSize + 1 < UInt32.size) :
    p.line < UInt32.size ∧ p.column < UInt32.size := by
  obtain ⟨hline, hcolumn, hsum⟩ := h
  have hlength := Text.length_le_byteLength source.toList
  rw [Text.byteLength_toList, String.length_toList] at hlength
  omega

end Position

lemma exists_ok_of_bind {ε α β : Type} {x : Except ε α} {f : α → Except ε β} {b : β}
    (h : x >>= f = .ok b) : ∃ a, x = .ok a ∧ f a = .ok b := by
  cases x with
  | error e => cases h
  | ok a => exact ⟨a, rfl, h⟩

lemma ModuleReader.position_of_mem_lintComponent {read : ModuleReader} {source : String}
    {filename? : Option String} {levels? : Option (List (String × String))}
    {answer : List (Finding × Position)}
    (h : read.lintComponent source filename? levels? = .ok answer) {x : Finding × Position}
    (hx : x ∈ answer) : x.2 = Position.ofOffset source x.1.span.start := by
  unfold lintComponent at h
  dsimp only at h
  split at h
  all_goals
    obtain ⟨settings, -, h⟩ := exists_ok_of_bind h
    obtain ⟨report, -, h⟩ := exists_ok_of_bind h
    cases h
    obtain ⟨f, -, rfl⟩ := List.mem_map.mp hx
    rfl

theorem positions_between_characters (source : String) :
    (∀ a b : ℕ, String.Pos.Raw.IsValid source ⟨a⟩ → String.Pos.Raw.IsValid source ⟨b⟩ → a < b →
      Position.ofOffset source a < Position.ofOffset source b) ∧
    (∀ a : ℕ, String.Pos.Raw.IsValid source ⟨a⟩ →
      (Position.ofOffset source a).In source ∧
      (Position.ofOffset source a).offset source = a) ∧
    (∀ a : ℕ, ¬ String.Pos.Raw.IsValid source ⟨a⟩ →
      Position.ofOffset source a = Position.ofOffset source source.utf8ByteSize) ∧
    (∀ a : ℕ, (Position.ofOffset source a).Within source.length) ∧
    (source.utf8ByteSize + 1 < UInt32.size →
      ∀ (read : ModuleReader) filename? levels? answer,
        read.lintComponent source filename? levels? = .ok answer → ∀ x ∈ answer,
          (UInt32.ofNat x.2.line).toNat = x.2.line ∧
          (UInt32.ofNat x.2.column).toNat = x.2.column) := by
  refine ⟨fun a b => Position.ofOffset_lt, ?_, fun a => Position.ofOffset_of_not_isValid,
    Position.within_ofOffset source, ?_⟩
  · intro a ha
    obtain ⟨before, ha⟩ := Text.isValid_iff.mp ha
    obtain ⟨rest, hsource, rfl⟩ := Text.takeBytes_eq_some_iff.mp ha
    rw [Position.ofOffset_of_append hsource]
    exact Position.after_in hsource
  · intro hsize read filename? levels? answer hanswer x hx
    have hwithin := Position.within_ofOffset source x.1.span.start
    rw [← ModuleReader.position_of_mem_lintComponent hanswer hx] at hwithin
    obtain ⟨hline, hcolumn⟩ := Position.lt_size_of_within hwithin hsize
    exact ⟨UInt32.toNat_ofNat_of_lt' hline, UInt32.toNat_ofNat_of_lt' hcolumn⟩

/-- Two bytes, a line feed behind a carriage return, an empty line, four bytes and a last line. -/
def wideText : String := "é\r\n\n😀x\n"

def keyless : ModuleReader := fun _ _ =>
  .ok [.exportDefault ⟨9, 10⟩ (.expr (.object ⟨9, 10⟩ [.spread ⟨9, 10⟩ (.null ⟨9, 10⟩)]))]

example : [0, 2, 3, 4, 5, 9, 10, 11].map (Position.ofOffset wideText) =
    [⟨1, 1⟩, ⟨1, 2⟩, ⟨1, 3⟩, ⟨2, 1⟩, ⟨3, 1⟩, ⟨3, 2⟩, ⟨3, 3⟩, ⟨4, 1⟩] := by
  decide

theorem wideText_positions :
    let position := Position.ofOffset wideText
    position 4 < position 9 ∧ ((position 9).In wideText ∧ (position 9).offset wideText = 9) ∧
    position 7 = position 11 ∧
    ∃ answer x, keyless.lintComponent wideText none none = .ok answer ∧ x ∈ answer ∧
      x.2 = ⟨3, 2⟩ ∧ (UInt32.ofNat x.2.line).toNat = x.2.line ∧
      (UInt32.ofNat x.2.column).toNat = x.2.column := by
  intro position
  obtain ⟨hlt, hoffset, hend, -, hcast⟩ := positions_between_characters wideText
  have hvalid : ∀ offset ∈ [4, 9], String.Pos.Raw.IsValid wideText ⟨offset⟩ := by
    simp only [Text.isValid_iff, ← Option.isSome_iff_exists]
    decide
  have hinside : ¬ String.Pos.Raw.IsValid wideText ⟨7⟩ := by
    rw [Text.isValid_iff, ← Option.isSome_iff_exists]
    decide
  let found := (Run.ofProgram .all wideText [.exportDefault ⟨9, 10⟩
    (.expr (.object ⟨9, 10⟩ [.spread ⟨9, 10⟩ (.null ⟨9, 10⟩)]))]).report
  let f : Finding := ⟨.required .key, .error, ⟨9, 10⟩, Rule.requiredMessage .key⟩
  have hf : f ∈ found.sorted.findings := List.mem_mergeSort.mpr (by decide)
  have hanswer : keyless.lintComponent wideText none none =
      .ok (found.sorted.findings.map fun f => (f, f.position wideText)) := rfl
  have hx := List.mem_map_of_mem (f := fun f => (f, f.position wideText)) hf
  exact ⟨hlt 4 9 (hvalid 4 (by decide)) (hvalid 9 (by decide)) (by decide),
    hoffset 9 (hvalid 9 (by decide)), hend 7 hinside, _, _, hanswer, hx, by decide,
    hcast (by decide) keyless none none _ hanswer _ hx⟩

end ExportLint

import ExportLint.Proofs.ByteOrder
import ExportLint.Proofs.Independence
import ExportLint.Proofs.RuleSelection
import ExportLint.Proofs.WrittenSettings
import Mathlib.Data.Set.List

/-! Levels given as strings act as the levels they name, although they are written into a document
and read back on the way. Of the strings that name no level, the one whose rule name comes first is
told. -/

namespace ExportLint

namespace Level

def names : List String := ["off", "warn", "error"]

lemma mem_names_iff {s : String} : s ∈ names ↔ ∃ level : Level, level.name = s := by
  constructor
  · intro h
    rcases List.mem_cons.mp h with rfl | h
    · exact ⟨off, rfl⟩
    rcases List.mem_cons.mp h with rfl | h
    · exact ⟨warn, rfl⟩
    rcases List.mem_singleton.mp h with rfl
    exact ⟨error, rfl⟩
  · rintro ⟨level, rfl⟩
    cases level <;> simp [names, name]

lemma ofName?_eq_none {s : String} (h : s ∉ names) : ofName? s = none := by
  unfold ofName?
  split
  · simp [names] at h
  · simp [names] at h
  · simp [names] at h
  · rfl

lemma ofName?_name (level : Level) : ofName? level.name = some level := by
  cases level <;> rfl

lemma name_injective : Function.Injective name := by
  intro a b h
  exact Option.some.inj ((ofName?_name a).symm.trans (h ▸ ofName?_name b))

end Level

section KeyOrder

variable {α : Type}

def keyLe (a b : String × α) : Bool := a.1 ≤ b.1

lemma pairwise_mergeSort_keyLe (l : List (String × α)) :
    (l.mergeSort keyLe).Pairwise fun a b => a.1 ≤ b.1 := by
  have htrans : ∀ a b c : String × α, keyLe a b → keyLe b c → keyLe a c := by
    intro a b c hab hbc
    simp only [keyLe, decide_eq_true_eq] at *
    exact String.le_trans hab hbc
  have htotal : ∀ a b : String × α, keyLe a b || keyLe b a := by
    intro a b
    simp only [keyLe, Bool.or_eq_true, decide_eq_true_eq]
    exact String.le_total a.1 b.1
  simpa [keyLe] using List.pairwise_mergeSort htrans htotal l

lemma mergeSort_eq_of_perm {l m : List (String × α)} (h : l.Perm m) (hd : (l.map Prod.fst).Nodup) :
    l.mergeSort keyLe = m.mergeSort keyLe := by
  have hl := List.mergeSort_perm l keyLe
  have hm := List.mergeSort_perm m keyLe
  refine List.Perm.eq_of_pairwise ?_ (pairwise_mergeSort_keyLe l)
    (pairwise_mergeSort_keyLe m) (hl.trans (h.trans hm.symm))
  intro a b ha hb hab hba
  exact List.inj_on_of_nodup_map hd (hl.mem_iff.mp ha) (h.mem_iff.mpr (hm.mem_iff.mp hb))
    (String.le_antisymm hab hba)

/-- The first that `p` holds of once the list is sorted is the least that it holds of. -/
lemma exists_first_mergeSort {l : List (String × α)} {p : String × α → Bool}
    (h : ∃ a ∈ l, p a = true) :
    ∃ a before after, l.mergeSort keyLe = before ++ a :: after ∧ p a = true ∧
      (∀ b ∈ before, p b = false) ∧ ∀ b ∈ l, p b = true → a.1 ≤ b.1 := by
  have hperm := List.mergeSort_perm l keyLe
  have hsome : ((l.mergeSort keyLe).find? p).isSome := by
    rw [List.find?_isSome]
    obtain ⟨b, hb, hp⟩ := h
    exact ⟨b, hperm.mem_iff.mpr hb, hp⟩
  obtain ⟨a, ha⟩ := Option.isSome_iff_exists.mp hsome
  obtain ⟨hp, before, after, hsplit, hbefore⟩ := List.find?_eq_some_iff_append.mp ha
  simp only [Bool.not_eq_true'] at hbefore
  refine ⟨a, before, after, hsplit, hp, hbefore, ?_⟩
  intro b hb hpb
  have hsorted := pairwise_mergeSort_keyLe l
  rw [hsplit, List.pairwise_append, List.pairwise_cons] at hsorted
  rw [← hperm.mem_iff, hsplit, List.mem_append, List.mem_cons] at hb
  rcases hb with hb | rfl | hb
  · rw [hbefore b hb] at hpb
    cases hpb
  · exact String.le_refl _
  · exact hsorted.2.1.1 b hb

end KeyOrder

namespace Settings

/-- The levels as strings. -/
def named (s : Settings) : List (String × String) := s.levels.map fun e => (e.1, e.2.name)

lemma map_fst_named (s : Settings) : s.named.map Prod.fst = s.names := by
  rw [named, names, List.map_map]
  rfl

/-- The same levels, in the order of the rule names. -/
def ordered (s : Settings) : Settings where
  levels := s.levels.mergeSort keyLe
  distinct := ((List.mergeSort_perm s.levels keyLe).map Prod.fst).nodup_iff.mpr s.distinct

lemma levels_set_of_new {s : Settings} {name : String} (level : Level)
    (h : s.levels.lookup name = none) :
    (s.set name level).levels = s.levels ++ [(name, level)] := by
  unfold set
  split
  · rename_i hs
    rw [h] at hs
    cases hs
  · rfl

lemma levels_foldl_set {s : Settings} {entries : List (String × Level)}
    (h : ((s.levels ++ entries).map Prod.fst).Nodup) :
    (entries.foldl (fun s e => s.set e.1 e.2) s).levels = s.levels ++ entries := by
  induction entries generalizing s with
  | nil => simp
  | cons e entries ih =>
    have hnew : s.levels.lookup e.1 = none := by
      rw [List.lookup_eq_none_iff]
      intro other ho
      rw [List.map_append, List.nodup_append] at h
      simpa using fun he => h.2.2 other.1 (List.mem_map_of_mem ho) e.1 (by simp) he.symm
    have hlevels := levels_set_of_new e.2 hnew
    rw [List.foldl_cons, ih (by rwa [hlevels, ← List.append_cons]), hlevels, ← List.append_cons]

lemma ofNames_eq (levels : List (String × String)) :
    ofNames levels = ((levels.mergeSort keyLe).map fun l =>
      (l.1, Json.Value.string l.2)).foldlM enter empty := by
  apply read_document
  · exact document_written Prod.fst fun l _ => text_string l.2
  · exact readable_of_within (List.forall_mem_map.mpr fun _ _ => .string)

lemma outcome_name (level : Level) : outcome (.string level.name) = .ok level := by
  rw [outcome, Reader.levelOfName, Level.ofName?_name]

lemma outcome_of_not_mem {name : String} (h : name ∉ Level.names) :
    outcome (.string name) = .error (.levelName name) := by
  rw [outcome, Reader.levelOfName, Level.ofName?_eq_none h]

lemma ofNames_named {s : Settings} {levels : List (String × String)} (h : s.named.Perm levels) :
    ofNames levels = .ok s.ordered := by
  have hdistinct : (s.named.map Prod.fst).Nodup := by
    rw [map_fst_named]
    exact s.names_nodup
  have hsort : levels.mergeSort keyLe = s.ordered.levels.map fun e => (e.1, e.2.name) := by
    rw [← mergeSort_eq_of_perm h hdistinct, named, ordered, List.map_mergeSort]
    exact fun _ _ _ _ => rfl
  have hset : s.ordered.levels.foldl (fun s e => s.set e.1 e.2) empty = s.ordered := by
    rw [Settings.mk.injEq]
    exact levels_foldl_set s.ordered.distinct
  rw [ofNames_eq, hsort, List.map_map,
    foldlM_enter_of_ok fun e _ => outcome_name e.2]
  exact congrArg Except.ok hset

/-- Of the levels that are none, the first in the order of the rule names is told. -/
lemma ofNames_of_bad {levels : List (String × String)} (h : ∃ l ∈ levels, l.2 ∉ Level.names) :
    ∃ l ∈ levels, l.2 ∉ Level.names ∧
      (∀ l' ∈ levels, l'.2 ∉ Level.names → l.1 ≤ l'.1) ∧
      ofNames levels = .error (.levelName l.2) := by
  obtain ⟨l, before, after, hsplit, hbad, hbefore, hleast⟩ :=
    exists_first_mergeSort (p := fun l => decide (l.2 ∉ Level.names)) (by simpa using h)
  simp only [decide_eq_true_eq, decide_eq_false_iff_not, not_not] at hbad hbefore hleast
  have hl : l ∈ levels := by
    rw [← (List.mergeSort_perm levels keyLe).mem_iff, hsplit]
    simp
  refine ⟨l, hl, hbad, hleast, ?_⟩
  have hok : ∀ m ∈ before.map (fun l => (l.1, Json.Value.string l.2)),
      ∃ level, outcome m.2 = .ok level := by
    intro m hm
    obtain ⟨l', hl', rfl⟩ := List.mem_map.mp hm
    obtain ⟨level, hlevel⟩ := Level.mem_names_iff.mp (hbefore l' hl')
    exact ⟨level, hlevel ▸ outcome_name level⟩
  rw [ofNames_eq, hsplit, List.map_append, List.map_cons]
  exact foldlM_enter_of_error hok (outcome_of_not_mem hbad) empty

lemma exists_named {levels : List (String × String)} (hd : (levels.map Prod.fst).Nodup)
    (h : ∀ l ∈ levels, l.2 ∈ Level.names) : ∃ s : Settings, s.named = levels := by
  have hrange : levels ∈ Set.range (List.map fun e : String × Level => (e.1, e.2.name)) := by
    rw [Set.range_list_map]
    intro l hl
    obtain ⟨level, hlevel⟩ := Level.mem_names_iff.mp (h l hl)
    exact ⟨(l.1, level), Prod.ext rfl hlevel⟩
  obtain ⟨entries, rfl⟩ := hrange
  rw [List.map_map] at hd
  exact ⟨⟨entries, hd⟩, rfl⟩

lemma levels_ordered (s : Settings) : s.ordered.levels.Perm s.levels :=
  List.mergeSort_perm s.levels keyLe

lemma named_ordered (s : Settings) : s.ordered.named.Perm s.named := s.levels_ordered.map _

lemma levels_perm_of_named {s t : Settings} (h : t.named.Perm s.named) :
    t.levels.Perm s.levels := by
  have hinj : Function.Injective fun e : String × Level => (e.1, e.2.name) := by
    intro e e' he
    obtain ⟨hname, hlevel⟩ := Prod.mk.inj he
    exact Prod.ext hname (Level.name_injective hlevel)
  exact (List.map_perm_map_iff hinj).mp h

lemma ordered_eq_self {s : Settings} (h : s.levels.Pairwise fun a b => a.1 ≤ b.1) :
    s.ordered = s := by
  rw [Settings.mk.injEq]
  exact List.mergeSort_of_pairwise (h.imp fun hab => decide_eq_true hab)

/-- At most one name can be told: one id is named twice, or none is and one name is unknown. -/
structure Unambiguous (s : Settings) : Prop where
  clash : ∀ i j, s.Clash i → s.Clash j → i = j
  unknown : (¬ ∃ id, s.Clash id) → ∀ i j, s.Unknown i → s.Unknown j → i = j

/-- The same answer, told of settings whose order is left open: where several ids are named twice,
or none is and several names are unknown, any of them may be the one that is told. -/
inductive SameAnswer {α : Type} (s : Settings) : Except LintError α → Except LintError α → Prop
  | refl (answer : Except LintError α) : SameAnswer s answer answer
  | duplicate {i j : String} (hi : s.Clash i) (hj : s.Clash j) :
    SameAnswer s (.error (.naming (.duplicate i))) (.error (.naming (.duplicate j)))
  | unknown {i j : String} (hc : ¬ ∃ id, s.Clash id) (hi : s.Unknown i) (hj : s.Unknown j) :
    SameAnswer s (.error (.naming (.unknown i))) (.error (.naming (.unknown j)))

lemma SameAnswer.eq {α : Type} {s : Settings} {a b : Except LintError α} (h : s.SameAnswer a b)
    (hs : s.Unambiguous) : a = b := by
  cases h with
  | refl => rfl
  | duplicate hi hj => rw [hs.clash _ _ hi hj]
  | unknown hc hi hj => rw [hs.unknown hc _ _ hi hj]

lemma SameAnswer.map {α β : Type} {s : Settings} {a b : Except LintError α} (h : s.SameAnswer a b)
    (f : α → β) : s.SameAnswer (a.map f) (b.map f) := by
  cases h with
  | refl => exact .refl _
  | duplicate hi hj => exact .duplicate hi hj
  | unknown hc hi hj => exact .unknown hc hi hj

end Settings

/-- The findings, each with the line and the column where its span starts. -/
def Report.located (r : Report) (source : String) : List (Finding × Position) :=
  r.findings.map fun f => (f, Position.ofOffset source f.span.start)

namespace ModuleReader

open RuleSet

variable (read : ModuleReader) (source : String)

lemma lint_of_perm (filename : String) {s t : Settings} (h : t.levels.Perm s.levels) :
    s.SameAnswer (read.lint t filename source).result (read.lint s filename source).result := by
  have hclash : (∃ id, t.Clash id) ↔ ∃ id, s.Clash id :=
    exists_congr fun _ => Settings.clash_of_perm h
  have hunknown : (∃ id, t.Unknown id) ↔ ∃ id, s.Unknown id :=
    exists_congr fun _ => Settings.unknown_of_perm h
  unfold lint
  rcases ofSettings_cases s with ⟨id, hid, hs⟩ | ⟨hc, id, hid, hs⟩ | ⟨hc, hu, hs⟩
  · obtain ⟨id', ht⟩ := (duplicate_error_iff t).mpr (hclash.mpr ⟨id, hid⟩)
    rw [hs, ht]
    exact .duplicate ((Settings.clash_of_perm h).mp (clash_of_duplicate_error ht)) hid
  · have hc' := not_exists.mpr hc
    obtain ⟨id', ht⟩ :=
      (unknown_error_iff t).mpr ⟨hclash.not.mpr hc', hunknown.mpr ⟨id, hid⟩⟩
    rw [hs, ht]
    exact .unknown hc' ((Settings.unknown_of_perm h).mp (unknown_of_unknown_error ht).2) hid
  · have ht : ofSettings t = .ok ⟨s.selection⟩ :=
      (ok_iff t _).mpr ⟨hclash.not.mpr (not_exists.mpr hc), hunknown.not.mpr (not_exists.mpr hu),
        (Settings.selection_of_perm h).symm⟩
    rw [hs, ht]
    exact .refl _

lemma lintComponent_eq (filename? : Option String) (levels : List (String × String)) :
    read.lintComponent source filename? (some levels) =
      (Settings.ofNames levels).mapError LintError.unreadable >>= fun s =>
        (read.lint s (filename?.getD defaultFilename) source).result.map (·.located source) := by
  rfl

lemma lintComponent_of_error (filename? : Option String) {levels : List (String × String)}
    {e : Settings.ReadError} (h : Settings.ofNames levels = .error e) :
    read.lintComponent source filename? (some levels) = .error (.unreadable e) := by
  rw [lintComponent_eq, h]
  rfl

lemma lintComponent_of_ok (filename? : Option String) {levels : List (String × String)}
    {s : Settings} (h : Settings.ofNames levels = .ok s) :
    read.lintComponent source filename? (some levels) =
      (read.lint s (filename?.getD defaultFilename) source).result.map (·.located source) := by
  rw [lintComponent_eq, h]
  rfl

end ModuleReader

theorem lintComponent_by_name (read : ModuleReader) (source : String) (filename? : Option String)
    (levels : List (String × String)) (hdistinct : (levels.map Prod.fst).Nodup) :
    let answer := read.lintComponent source filename? (some levels)
    let direct := fun s : Settings =>
      (read.lint s (filename?.getD defaultFilename) source).result.map (·.located source)
    ((∃ l ∈ levels, l.2 ∉ Level.names) →
      ∃ l ∈ levels, l.2 ∉ Level.names ∧
        (∀ l' ∈ levels, l'.2 ∉ Level.names → Text.bytes l.1 ≤ Text.bytes l'.1) ∧
        answer = .error (.unreadable (.levelName l.2))) ∧
    ((∀ l ∈ levels, l.2 ∈ Level.names) →
      (∃ t : Settings, Settings.ofNames levels = .ok t ∧ t.named.Perm levels ∧
        answer = direct t) ∧
      ∀ s : Settings, s.named.Perm levels →
        (s.SameAnswer answer (direct s) ∧ (s.Unambiguous → answer = direct s)) ∧
        ∀ t : Settings, t.named.Perm levels →
          s.SameAnswer (direct t) (direct s) ∧ (s.Unambiguous → direct t = direct s)) := by
  intro answer direct
  constructor
  · intro h
    obtain ⟨l, hl, hbad, hleast, he⟩ := Settings.ofNames_of_bad h
    refine ⟨l, hl, hbad, ?_, read.lintComponent_of_error source filename? he⟩
    intro l' hl' hbad'
    exact Text.bytes_le_iff.mpr (hleast l' hl' hbad')
  · intro h
    obtain ⟨given, hgiven⟩ := Settings.exists_named hdistinct h
    have hread := Settings.ofNames_named (s := given) (.of_eq hgiven)
    have hordered : given.ordered.named.Perm levels := hgiven ▸ given.named_ordered
    have hanswer : answer = direct given.ordered :=
      read.lintComponent_of_ok source filename? hread
    -- whatever the order in which the levels are met, on either side
    have hsame : ∀ s t : Settings, s.named.Perm levels → t.named.Perm levels →
        s.SameAnswer (direct t) (direct s) := by
      intro s t hs ht
      exact (read.lint_of_perm source _ (Settings.levels_perm_of_named (ht.trans hs.symm))).map _
    refine ⟨⟨given.ordered, hread, hordered, hanswer⟩, ?_⟩
    intro s hs
    rw [hanswer]
    exact ⟨⟨hsame s _ hs hordered, (hsame s _ hs hordered).eq⟩,
      fun t ht => ⟨hsame s t hs ht, (hsame s t hs ht).eq⟩⟩

def misnamed : List (String × String) :=
  [("😀", "loud\n"), ("source-name", "off"), ("\uFFFD\"", "warn\\")]

lemma clashing_unambiguous : RuleSet.clashing.Unambiguous where
  clash := by
    have honly : ∀ id, RuleSet.clashing.Clash id → id = "source-name" := by
      intro id h
      obtain ⟨hid, hbare, hplugin⟩ := Settings.clash_iff.mp h
      rcases List.mem_cons.mp hbare with rfl | hbare
      · exact absurd hplugin (by decide)
      rcases List.mem_cons.mp hbare with rfl | hbare
      · rfl
      rcases List.mem_singleton.mp hbare with rfl
      exact absurd (by decide) hid
    intro i j hi hj
    rw [honly i hi, honly j hj]
  unknown := by
    intro hno
    exact (hno ⟨"source-name", RuleSet.clash_of_duplicate_error (by decide)⟩).elim

theorem misnamed_by_name :
    onlyStamped.lintComponent "" none (some misnamed) =
      .error (.unreadable (.levelName "warn\\")) ∧
    onlyStamped.lintComponent "" none (some RuleSet.clashing.named) =
      (onlyStamped.lint RuleSet.clashing defaultFilename "").result.map (·.located "") ∧
    (onlyStamped.lint RuleSet.clashingReversed defaultFilename "").result.map (·.located "") =
      (onlyStamped.lint RuleSet.clashing defaultFilename "").result.map (·.located "") := by
  have hmisnamed : (misnamed.map Prod.fst).Nodup := by decide
  have hclashing : (RuleSet.clashing.named.map Prod.fst).Nodup := by decide
  constructor
  · obtain ⟨hbad, -⟩ := lintComponent_by_name onlyStamped "" none misnamed hmisnamed
    obtain ⟨l, hl, hl', hleast, h⟩ := hbad ⟨("😀", "loud\n"), by decide, by decide⟩
    have hfirst : ∀ l ∈ misnamed, l.2 ∉ Level.names →
        Text.bytes l.1 ≤ Text.bytes "\uFFFD\"" → l.2 = "warn\\" := by decide
    rw [h, hfirst l hl hl' (hleast ("\uFFFD\"", "warn\\") (by decide) (by decide))]
  · obtain ⟨-, hgood⟩ :=
      lintComponent_by_name onlyStamped "" none RuleSet.clashing.named hclashing
    obtain ⟨-, hsame⟩ := hgood (by decide)
    obtain ⟨⟨-, hdirect⟩, horders⟩ := hsame RuleSet.clashing (.refl _)
    have hreversed : RuleSet.clashingReversed.named.Perm RuleSet.clashing.named := by decide
    exact ⟨hdirect clashing_unambiguous,
      (horders RuleSet.clashingReversed hreversed).2 clashing_unambiguous⟩

def foreign : Settings := ⟨[("func-names", .off), ("for-direction", .off)], by decide⟩

def foreignInOrder : Settings := ⟨[("for-direction", .off), ("func-names", .off)], by decide⟩

/-- Two names are unknown. Written and read back they come in the order of their bytes, and another
one is told than when they are met as they stand. -/
theorem foreign_told_apart :
    let answer := lintComponent "" none (some foreign.named)
    let direct := (lint foreign defaultFilename "").result.map (·.located "")
    (foreign.named.map Prod.fst).Nodup ∧ (∀ l ∈ foreign.named, l.2 ∈ Level.names) ∧
    answer.mapError LintError.message = .error "Unknown rule `for-direction`" ∧
    direct.mapError LintError.message = .error "Unknown rule `func-names`" ∧
    answer.mapError LintError.message ≠ direct.mapError LintError.message := by
  intro answer direct
  have hperm : foreignInOrder.named.Perm foreign.named := by decide
  have hread : Settings.ofNames foreign.named = .ok foreignInOrder := by
    rw [Settings.ofNames_named hperm, Settings.ordered_eq_self (by decide)]
  have hanswer : answer.mapError LintError.message = .error "Unknown rule `for-direction`" := by
    simp only [answer]
    rw [lintComponent, ModuleReader.lintComponent_of_ok _ "" none hread]
    rfl
  have hdirect : direct.mapError LintError.message = .error "Unknown rule `func-names`" := rfl
  refine ⟨by decide, by decide, hanswer, hdirect, ?_⟩
  rw [hanswer, hdirect]
  simp

end ExportLint

import ExportLint.Proofs.Addresses
import ExportLint.Run

/-! A run over a module finds what its rules find about each statement alone, statement after
statement in reading order. -/

namespace ExportLint

def Stmt.isCandidate : Stmt → Bool
  | .expression _ _ | .exportDefault _ _ => true
  | .compound _ _ => false

def Program.candidates (program : Program) : List (Address × Stmt) :=
  program.addresses.filterMap fun a =>
    ((program.stmtAt? a).filter Stmt.isCandidate).map fun s => (a, s)

namespace RuleSet

/-- What one rule finds about one statement: its complaints, under its name and severity. -/
def findsAlone (entry : Rule × Severity) (source : String) (s : Stmt) : List Finding :=
  (entry.1.check source s).map fun complaint => ⟨entry.1, entry.2, complaint⟩

lemma entries_all : all.entries = Rule.all.map fun rule => (rule, Severity.error) := by
  decide

lemma check_eq_flatMap_findsAlone (rules : RuleSet) (source : String) (s : Stmt) :
    rules.check source s = rules.entries.flatMap fun entry => findsAlone entry source s := by
  simp [check, findsAlone]

lemma check_of_component?_eq_none {s : Stmt} (h : s.component? = none) (rules : RuleSet)
    (source : String) : rules.check source s = [] := by
  simp [check, Rule.check, h]

lemma filter_check (rules : RuleSet) (keep : Rule → Bool) (source : String) (s : Stmt) :
    (rules.check source s).filter (fun f => keep f.rule) =
      check ⟨rules.entries.filter fun entry => keep entry.1⟩ source s := by
  unfold check
  induction rules.entries with
  | nil => rfl
  | cons entry entries ih =>
    rw [List.flatMap_cons, List.filter_append, ih, List.filter_map]
    by_cases h : keep entry.1 <;> simp [h, Function.comp_def]

end RuleSet

namespace Run

variable (rules : RuleSet) (source : String)

lemma findings_foldl_step (statements : List Stmt) (run : Run) :
    (statements.foldl (step rules source) run).findings =
      run.findings ++ statements.flatMap (rules.check source) := by
  induction statements generalizing run with
  | nil => simp
  | cons s statements ih => rw [List.foldl_cons, ih, List.flatMap_cons, ← List.append_assoc]; rfl

lemma findings_ofProgram (program : Program) :
    (ofProgram rules source program).findings =
      program.statements.flatMap (rules.check source) := by
  simp only [ofProgram, Program.visit_eq_foldl, findings_foldl_step, List.nil_append]

lemma filter_findings (program : Program) (keep : Rule → Bool) :
    (ofProgram rules source program).findings.filter (fun f => keep f.rule) =
      (ofProgram ⟨rules.entries.filter fun entry => keep entry.1⟩ source program).findings := by
  simp only [findings_ofProgram, List.filter_flatMap, RuleSet.filter_check]

end Run

namespace Program

lemma mem_candidates_iff {program : Program} {a : Address} {s : Stmt} :
    (a, s) ∈ program.candidates ↔ program.stmtAt? a = some s ∧ s.isCandidate := by
  simp only [candidates, List.mem_filterMap, Option.map_eq_some_iff, Option.filter_eq_some_iff,
    Prod.mk.injEq]
  constructor
  · rintro ⟨a, -, s, ⟨hs, hc⟩, rfl, rfl⟩
    exact ⟨hs, hc⟩
  · rintro ⟨hs, hc⟩
    exact ⟨a, mem_addresses_of_stmtAt? hs, s, ⟨hs, hc⟩, rfl, rfl⟩

lemma candidates_pairwise (program : Program) :
    program.candidates.Pairwise fun x y => x.1 < y.1 := by
  refine program.addresses_pairwise.filterMap _ ?_
  intro a b hab x hx y hy
  obtain ⟨s, -, rfl⟩ := Option.map_eq_some_iff.mp hx
  obtain ⟨t, -, rfl⟩ := Option.map_eq_some_iff.mp hy
  exact hab

lemma flatMap_candidates {α : Type} (program : Program) (f : Stmt → List α)
    (h : ∀ span parts, f (.compound span parts) = []) :
    program.statements.flatMap f = program.candidates.flatMap fun x => f x.2 := by
  rw [statements_eq_filterMap, candidates]
  induction program.addresses with
  | nil => rfl
  | cons a as ih =>
    cases hs : program.stmtAt? a with
    | none => simpa [List.filterMap_cons, hs] using ih
    | some s => cases s <;> simp [hs, Stmt.isCandidate, ih, h]

lemma candidates_split {program : Program} {a b : Address} {s t : Stmt}
    (hs : (a, s) ∈ program.candidates) (ht : (b, t) ∈ program.candidates) (hab : a < b) :
    ∃ before between after,
      program.candidates = before ++ (a, s) :: (between ++ (b, t) :: after) := by
  obtain ⟨before, rest, h⟩ := List.append_of_mem hs
  have hp := program.candidates_pairwise
  rw [h, List.pairwise_append] at hp
  rw [h, List.mem_append, List.mem_cons] at ht
  rcases ht with ht | ht | ht
  · exact (List.lt_asymm hab (hp.2.2 _ ht _ List.mem_cons_self)).elim
  · obtain ⟨rfl, rfl⟩ := Prod.mk.inj ht
    exact (List.lt_irrefl b hab).elim
  · obtain ⟨between, after, rfl⟩ := List.append_of_mem ht
    exact ⟨before, between, after, h⟩

lemma lt_of_isPrefix {a b : Address} (h : a <+: b) (hne : a ≠ b) : a < b := by
  obtain ⟨c, rfl⟩ := h
  induction a with
  | nil =>
    cases c with
    | nil => exact (hne rfl).elim
    | cons i c => exact List.nil_lt_cons i c
  | cons i a ih => exact List.cons_lt_cons_self.mpr (ih fun h => hne (congrArg (i :: ·) h))

end Program

namespace Run

lemma findings_eq_candidates (rules : RuleSet) (source : String) (program : Program) :
    (ofProgram rules source program).findings =
      program.candidates.flatMap fun x => rules.check source x.2 := by
  rw [findings_ofProgram]
  exact program.flatMap_candidates _ fun _ _ => RuleSet.check_of_component?_eq_none rfl rules source

lemma findings_of_no_component {program : Program}
    (h : ∀ a s, program.stmtAt? a = some s → s.component? = none) (rules : RuleSet)
    (source : String) : (ofProgram rules source program).findings = [] := by
  rw [findings_ofProgram, List.flatMap_eq_nil_iff]
  intro s hs
  obtain ⟨a, ha⟩ := Program.mem_statements_iff.mp hs
  exact RuleSet.check_of_component?_eq_none (h a s ha) rules source

theorem findings_in_reading_order (rules : RuleSet) (source : String) :
    let own := fun s : Stmt => rules.entries.flatMap fun entry => RuleSet.findsAlone entry source s
    let findings := fun program : Program => (ofProgram rules source program).findings
    (∀ program : Program,
      program.candidates.Pairwise (fun x y => x.1 < y.1) ∧
      (∀ a s, (a, s) ∈ program.candidates ↔ program.stmtAt? a = some s ∧ s.isCandidate) ∧
      findings program = program.candidates.flatMap fun x => own x.2) ∧
    (∀ p q : Program, findings (p ++ q) = findings p ++ findings q) ∧
    (∀ (program : Program) (a b : Address) (s t : Stmt), (a, s) ∈ program.candidates →
      (b, t) ∈ program.candidates → a <+: b → a ≠ b →
      ∃ before between after,
        program.candidates = before ++ (a, s) :: (between ++ (b, t) :: after) ∧
        findings program = before.flatMap (fun x => own x.2) ++ own s ++
          between.flatMap (fun x => own x.2) ++ own t ++ after.flatMap (fun x => own x.2)) ∧
    (∀ program : Program, (∀ a s, program.stmtAt? a = some s → s.component? = none) →
      findings program = []) := by
  intro own findings
  have hown : ∀ s, rules.check source s = own s := fun s =>
    rules.check_eq_flatMap_findsAlone source s
  have hall : ∀ program : Program,
      findings program = program.candidates.flatMap fun x => own x.2 := by
    intro program
    simp only [findings, findings_eq_candidates, hown]
  refine ⟨?_, ?_, ?_, fun program h => findings_of_no_component h rules source⟩
  · intro program
    exact ⟨program.candidates_pairwise, fun a s => Program.mem_candidates_iff, hall program⟩
  · intro p q
    simp only [findings, findings_ofProgram, Program.statements_append, List.flatMap_append]
  · intro program a b s t hs ht hab hne
    obtain ⟨before, between, after, h⟩ :=
      Program.candidates_split hs ht (Program.lt_of_isPrefix hab hne)
    refine ⟨before, between, after, h, ?_⟩
    rw [hall, h]
    simp

def innerExport : Stmt :=
  .expression ⟨33, 62⟩ (.assignment ⟨33, 61⟩ "="
    (.member ⟨33, 47⟩ (.identifier ⟨33, 39⟩ "module") "exports")
    (.object ⟨50, 61⟩ [.property ⟨52, 59⟩ (.word ⟨52, 55⟩ "key") (.string ⟨57, 59⟩ "")]))

def outerExport : Stmt :=
  .exportDefault ⟨0, 66⟩ (.expr (.object ⟨15, 66⟩
    [.property ⟨17, 64⟩ (.word ⟨17, 20⟩ "run") (.compound ⟨20, 64⟩ .other [.stmt innerExport])]))

theorem findings_of_nested_exports :
    (∃ before between after,
      Program.candidates [outerExport] =
        before ++ ([0], outerExport) :: (between ++ ([0, 0, 0, 1, 0], innerExport) :: after) ∧
      (ofProgram .all "" [outerExport]).findings =
        before.flatMap (fun x => RuleSet.all.entries.flatMap (RuleSet.findsAlone · "" x.2)) ++
          RuleSet.all.entries.flatMap (RuleSet.findsAlone · "" outerExport) ++
          between.flatMap (fun x => RuleSet.all.entries.flatMap (RuleSet.findsAlone · "" x.2)) ++
          RuleSet.all.entries.flatMap (RuleSet.findsAlone · "" innerExport) ++
          after.flatMap (fun x => RuleSet.all.entries.flatMap (RuleSet.findsAlone · "" x.2))) ∧
    (ofProgram .all "" [.expression ⟨0, 1⟩ (.identifier ⟨0, 1⟩ "x")]).findings = [] := by
  obtain ⟨-, -, hnested, hnone⟩ := findings_in_reading_order .all ""
  constructor
  · exact hnested [outerExport] [0] [0, 0, 0, 1, 0] outerExport innerExport
      (Program.mem_candidates_iff.mpr ⟨rfl, rfl⟩) (Program.mem_candidates_iff.mpr ⟨rfl, rfl⟩)
      (by decide) (by decide)
  · apply hnone
    intro a s h
    have hs : s ∈ Program.statements [.expression ⟨0, 1⟩ (.identifier ⟨0, 1⟩ "x")] :=
      Program.mem_statements_iff.mpr ⟨a, h⟩
    obtain rfl : s = .expression ⟨0, 1⟩ (.identifier ⟨0, 1⟩ "x") := by
      simpa [Program.statements, Part.statements_eq, Part.children, Part.stmt?] using hs
    rfl

end Run

end ExportLint

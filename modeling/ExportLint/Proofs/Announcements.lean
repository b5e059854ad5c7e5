import ExportLint.Lint
import ExportLint.Proofs.Exports
import ExportLint.Proofs.Guidelines

/-! The events of a run announce the statements that export a component, whatever the rules, and
carry the number of findings. Nothing is found about a statement that is not announced. -/

namespace ExportLint

namespace Program

def announced (program : Program) : List (Address × Stmt) :=
  program.candidates.filter fun x => x.2.component?.isSome

lemma announced_pairwise (program : Program) :
    program.announced.Pairwise fun x y => x.1 < y.1 :=
  program.candidates_pairwise.filter _

lemma isCandidate_of_component? {s : Stmt} (h : s.component?.isSome) : s.isCandidate := by
  cases s with
  | compound span parts => cases h
  | _ => rfl

lemma mem_announced_iff {program : Program} {a : Address} {s : Stmt} :
    (a, s) ∈ program.announced ↔ program.stmtAt? a = some s ∧ ∃ o, s.Exports o := by
  have hexports : s.component?.isSome ↔ ∃ o, s.Exports o := by
    rw [Option.isSome_iff_exists]
    constructor
    · rintro ⟨c, hc⟩
      exact ⟨c.object, Stmt.component?_eq_some_iff.mp hc⟩
    · rintro ⟨o, ho⟩
      exact ⟨⟨o⟩, Stmt.component?_eq_some_iff.mpr ho⟩
  rw [announced, List.mem_filter, mem_candidates_iff, ← hexports]
  constructor
  · rintro ⟨⟨hs, -⟩, hc⟩
    exact ⟨hs, hc⟩
  · rintro ⟨hs, hc⟩
    exact ⟨⟨hs, isCandidate_of_component? hc⟩, hc⟩

lemma flatMap_announced {α : Type} (program : Program) (f : Stmt → List α)
    (h : ∀ s, s.component? = none → f s = []) :
    program.statements.flatMap f = program.announced.flatMap fun x => f x.2 := by
  rw [program.flatMap_candidates f fun _ _ => h _ rfl, announced]
  induction program.candidates with
  | nil => rfl
  | cons x xs ih =>
    cases hx : x.2.component? with
    | none => simp [hx, h x.2 hx, ih]
    | some c => simp [hx, ih]

lemma map_fst_exports (program : Program) :
    program.exports.map Prod.fst = program.announced.map fun x => x.2.span := by
  rw [exports, List.map_filterMap, List.filterMap_eq_flatMap_toList,
    program.flatMap_announced _ fun s hs => by simp [Stmt.shipped?, hs], List.map_eq_flatMap]
  apply List.flatMap_congr
  intro x hx
  obtain ⟨c, hc⟩ := Option.isSome_iff_exists.mp (List.mem_filter.mp hx).2
  simp [Stmt.shipped?, hc]

end Program

namespace Run

variable (rules : RuleSet) (source : String) (program : Program)

lemma findings_eq_announced : (ofProgram rules source program).findings =
    program.announced.flatMap fun x => rules.check source x.2 := by
  rw [findings_ofProgram]
  exact program.flatMap_announced _ fun s hs =>
    RuleSet.check_of_component?_eq_none hs rules source

lemma events_eq_announced : (ofProgram rules source program).events =
    .linting rules.size :: program.announced.map (fun x => .resolved x.2.span) ++
      [.finished (ofProgram rules source program).findings.length] := by
  have hspans := congrArg (List.map Event.resolved) program.map_fst_exports
  rw [List.map_map, List.map_map] at hspans
  rw [events_eq_exports]
  exact congrArg (fun es => .linting rules.size :: es ++ _) hspans

end Run

namespace ModuleReader

variable (read : ModuleReader) {filename source : String}

lemma lintWith_of_ok {program : Program} (h : read filename source = .ok program)
    (rules : RuleSet) :
    read.lintWith rules filename source =
      ⟨.ok (Run.ofProgram rules source program).report.sorted,
        (Run.ofProgram rules source program).events ++
          [.linted filename (Run.ofProgram rules source program).report.sorted.findings.length]⟩ := by
  rw [lintWith, h]

lemma lint_of_ok {settings : Settings} {rules : RuleSet}
    (h : RuleSet.ofSettings settings = .ok rules) :
    read.lint settings filename source = read.lintWith rules filename source := by
  rw [lint, h]

theorem events_tell_the_run (settings : Settings) (filename source : String) :
    (∀ e, RuleSet.ofSettings settings = .error e →
      read.lint settings filename source = ⟨.error (.naming e), []⟩) ∧
    (∀ rules messages, RuleSet.ofSettings settings = .ok rules →
      read filename source = .error messages →
      read.lint settings filename source =
        ⟨.error (.parse filename messages), [.parseFailed filename messages.length]⟩) ∧
    (∀ program, read filename source = .ok program →
      program.announced.Pairwise (fun x y => x.1 < y.1) ∧
      (∀ a s, (a, s) ∈ program.announced ↔
        program.stmtAt? a = some s ∧ ∃ o, s.Exports o) ∧
      ∀ rules, ∃ report : Report,
        read.lintWith rules filename source = ⟨.ok report,
          .linting rules.size :: program.announced.map (fun x => .resolved x.2.span) ++
            [.finished report.findings.length, .linted filename report.findings.length]⟩ ∧
        (RuleSet.ofSettings settings = .ok rules →
          read.lint settings filename source = read.lintWith rules filename source) ∧
        ∀ f ∈ report.findings, ∃ x ∈ program.announced, f ∈ rules.check source x.2) := by
  refine ⟨?_, ?_, ?_⟩
  · intro e he
    rw [lint, he]
  · intro rules messages hrules hmessages
    rw [read.lint_of_ok hrules, lintWith, hmessages]
  · intro program hprogram
    refine ⟨program.announced_pairwise, fun a s => Program.mem_announced_iff, fun rules => ?_⟩
    let run := Run.ofProgram rules source program
    have hperm : run.report.sorted.findings.Perm run.findings := List.mergeSort_perm _ _
    refine ⟨run.report.sorted, ?_, fun hrules => read.lint_of_ok hrules, ?_⟩
    · rw [read.lintWith_of_ok hprogram, Run.events_eq_announced, hperm.length_eq]
      simp [run]
    · intro f hf
      have hfound : f ∈ run.findings := hperm.mem_iff.mp hf
      rw [Run.findings_eq_announced] at hfound
      exact List.mem_flatMap.mp hfound

def nestedText : String :=
  "export default \x7b run() \x7b\n        module.exports = \x7b key: \"\" \x7d; \x7d \x7d"

def onlyNested : ModuleReader := fun _ source =>
  if source = nestedText then .ok [Run.outerExport] else .error ["Unexpected token"]

def unnamed : Settings := ⟨[("pipedream/required-properties-name", .off)], by decide⟩

theorem onlyNested_events :
    onlyNested.lint ⟨[("no-name", .warn)], by decide⟩ "a.js" nestedText =
      ⟨.error (.naming (.unknown "no-name")), []⟩ ∧
    onlyNested.lint unnamed "a.js" "export default \x7b" =
      ⟨.error (.parse "a.js" ["Unexpected token"]), [.parseFailed "a.js" 1]⟩ ∧
    ([0], Run.outerExport) ∈ Program.announced [Run.outerExport] ∧
    ([0, 0, 0, 1, 0], Run.innerExport) ∈ Program.announced [Run.outerExport] ∧
    ∃ report : Report, onlyNested.lint unnamed "a.js" nestedText = ⟨.ok report,
      .linting 10 :: (Program.announced [Run.outerExport]).map (fun x => .resolved x.2.span) ++
        [.finished report.findings.length, .linted "a.js" report.findings.length]⟩ := by
  obtain ⟨hnaming, -, -⟩ :=
    onlyNested.events_tell_the_run ⟨[("no-name", .warn)], by decide⟩ "a.js" nestedText
  obtain ⟨-, hparse, -⟩ := onlyNested.events_tell_the_run unnamed "a.js" "export default \x7b"
  obtain ⟨-, -, htold⟩ := onlyNested.events_tell_the_run unnamed "a.js" nestedText
  obtain ⟨-, hannounced, hruns⟩ := htold [Run.outerExport] (if_pos rfl)
  obtain ⟨rules, hrules, hsize⟩ :
      ∃ rules, RuleSet.ofSettings unnamed = .ok rules ∧ rules.size = 10 := ⟨_, rfl, by decide⟩
  obtain ⟨report, htold, hlint, -⟩ := hruns rules
  refine ⟨hnaming _ rfl, hparse rules _ hrules (if_neg (by decide)), ?_, ?_, report, ?_⟩
  · exact (hannounced [0] _).mpr ⟨rfl, _, .default .object⟩
  · exact (hannounced [0, 0, 0, 1, 0] _).mpr ⟨rfl, _, .assigned .object⟩
  · rw [hlint hrules, htold, hsize]

end ModuleReader

end ExportLint

import ExportLint.Lint
import ExportLint.Proofs.RuleSelection
import ExportLint.Proofs.SourceOrder
import ExportLint.Proofs.Traversal

/-! Settings only filter what the run with every rule on reports. -/

namespace ExportLint

def Finding.under (s : Settings) (f : Finding) : Option Finding :=
  match s.levelOf? f.rule.id with
  | some .off => none
  | some .warn => some { f with severity := .warning }
  | some .error => some f
  | none => some f

def Report.under (s : Settings) (r : Report) : Report :=
  ⟨r.findings.filterMap (·.under s)⟩

lemma Finding.span_of_under {s : Settings} {f f' : Finding} (h : f.under s = some f') :
    f'.span = f.span := by
  unfold under at h
  split at h <;> cases h <;> rfl

lemma Finding.under_error (s : Settings) (rule : Rule) (c : Complaint) :
    Finding.under s ⟨rule, .error, c⟩ =
      (s.severityOf? rule).map fun severity => ⟨rule, severity, c⟩ := by
  unfold under Settings.severityOf?
  cases s.levelOf? rule.id with
  | none => rfl
  | some level => cases level <;> rfl

namespace RuleSet

lemma check_cons (entry : Rule × Severity) (entries : List (Rule × Severity)) (source : String)
    (st : Stmt) :
    check ⟨entry :: entries⟩ source st =
      (entry.1.check source st).map (fun c => ⟨entry.1, entry.2, c⟩) ++
        check ⟨entries⟩ source st := by
  simp [check]

lemma check_levels (s : Settings) (source : String) (st : Stmt) (rules : List Rule) :
    check ⟨rules.filterMap fun rule => (s.severityOf? rule).map fun severity => (rule, severity)⟩
        source st =
      (check ⟨rules.map fun rule => (rule, .error)⟩ source st).filterMap (·.under s) := by
  induction rules with
  | nil => rfl
  | cons rule rules ih =>
    rw [List.map_cons, check_cons, List.filterMap_append, ← ih, List.filterMap_map]
    simp only [Function.comp_def, Finding.under_error]
    cases hs : s.severityOf? rule with
    | none => simp [hs]
    | some severity => simp [hs, check_cons]

lemma check_selection (s : Settings) (source : String) (st : Stmt) :
    check ⟨s.selection⟩ source st = (all.check source st).filterMap (·.under s) := by
  have hall : all = ⟨Rule.all.map fun rule => (rule, .error)⟩ := congrArg mk entries_all
  rw [hall, Settings.selection, check_levels]

lemma ofSettings_empty : ofSettings .empty = .ok .all := by
  decide

end RuleSet

lemma Run.report_under (s : Settings) (source : String) (program : Program) :
    (ofProgram ⟨s.selection⟩ source program).report =
      (ofProgram .all source program).report.under s := by
  simp only [report, Report.under, findings_ofProgram, List.filterMap_flatMap]
  congr 1
  apply List.flatMap_congr
  intro st _
  exact RuleSet.check_selection s source st

lemma ModuleReader.result_under (read : ModuleReader) (s : Settings) (filename source : String) :
    (read.lintWith ⟨s.selection⟩ filename source).result =
      (read.lintWith .all filename source).result.map (Report.under s) := by
  unfold lintWith
  cases read filename source with
  | error messages => rfl
  | ok program =>
    simp only [Run.report_under, Except.map]
    congr 1
    exact Report.sorted_filterMap (fun f f' => Finding.span_of_under) _

theorem settings_filter_findings {settings : Settings} {rules : RuleSet}
    (h : RuleSet.ofSettings settings = .ok rules) :
    RuleSet.ofSettings .empty = .ok .all ∧
    RuleSet.all.entries = Rule.all.map (fun rule => (rule, .error)) ∧
    (∀ (source : String) (program : Program),
      (Run.ofProgram rules source program).report =
        (Run.ofProgram .all source program).report.under settings) ∧
    ∀ (read : ModuleReader) (filename source : String),
      (read.lint settings filename source).result =
        (read.lint .empty filename source).result.map (Report.under settings) := by
  obtain ⟨-, -, hrules⟩ := (RuleSet.ok_iff settings rules).mp h
  obtain rfl : rules = ⟨settings.selection⟩ := congrArg RuleSet.mk hrules
  refine ⟨RuleSet.ofSettings_empty, RuleSet.entries_all, Run.report_under settings, ?_⟩
  intro read filename source
  rw [ModuleReader.lint, ModuleReader.lint, h, RuleSet.ofSettings_empty]
  exact read.result_under settings filename source

def quieted : Settings :=
  ⟨[("pipedream/required-properties-name", .off), ("required-properties-key", .warn)], by decide⟩

theorem quieted_settings_filter_findings :
    RuleSet.ofSettings quieted = .ok ⟨quieted.selection⟩ ∧
    (Run.ofProgram ⟨quieted.selection⟩ "" [Run.outerExport]).report =
      (Run.ofProgram .all "" [Run.outerExport]).report.under quieted ∧
    (lint quieted "a.js" "export default \x7b a: 1 \x7d").result =
      (lint .empty "a.js" "export default \x7b a: 1 \x7d").result.map (Report.under quieted) := by
  have h : RuleSet.ofSettings quieted = .ok ⟨quieted.selection⟩ := by decide
  obtain ⟨-, -, hrun, hlint⟩ := settings_filter_findings h
  exact ⟨h, hrun "" [Run.outerExport], hlint .ofDialects "a.js" "export default \x7b a: 1 \x7d"⟩

end ExportLint

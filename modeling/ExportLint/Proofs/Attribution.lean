import ExportLint.Proofs.Announcements
import ExportLint.Proofs.Independence

/-! Whoever counts findings by rule or by severity counts the same. Every finding is made by a rule
of the set at the severity the set gives to that rule, in the order of a run as in the order of the
source. -/

namespace ExportLint

def RuleSet.idsAt (rules : RuleSet) (severity : Severity) : List String :=
  rules.ids.filter fun id => rules.severity? id = some severity

structure Report.Attributed (rules : RuleSet) (r : Report) : Prop where
  severity : ∀ f ∈ r.findings, rules.severity? f.rule.id = some f.severity
  partition : (rules.ids.flatMap r.forRule).Perm r.findings
  total : (rules.ids.map fun id => (r.forRule id).length).sum = r.findings.length
  others : ∀ id, id ∉ rules.ids → r.forRule id = []
  errorCount : r.errorCount = ((rules.idsAt .error).map fun id => (r.forRule id).length).sum
  warningCount : r.warningCount = ((rules.idsAt .warning).map fun id => (r.forRule id).length).sum
  hasErrors : r.hasErrors ↔ ∃ id ∈ rules.idsAt .error, r.forRule id ≠ []
  hasWarnings : r.hasWarnings ↔ ∃ id ∈ rules.idsAt .warning, r.forRule id ≠ []

namespace RuleSet

variable {rules : RuleSet} {id : String} {severity : Severity}

lemma mem_ids_of_severity? (h : rules.severity? id = some severity) : id ∈ rules.ids := by
  rw [← find?_isSome_iff, ← Option.isSome_map (f := Prod.snd)]
  exact Option.isSome_of_eq_some h

lemma mem_idsAt_iff : id ∈ rules.idsAt severity ↔ rules.severity? id = some severity := by
  rw [idsAt, List.mem_filter, decide_eq_true_iff]
  exact and_iff_right_of_imp mem_ids_of_severity?

lemma nodup_idsAt (h : rules.ids.Nodup) : (rules.idsAt severity).Nodup := h.filter _

end RuleSet

namespace Report

lemma flatMap_forRule_perm (r : Report) {ids : List String} (h : ids.Nodup) :
    (ids.flatMap r.forRule).Perm (r.findings.filter fun f => f.rule.id ∈ ids) := by
  induction ids with
  | nil => simp
  | cons id ids ih =>
    obtain ⟨hid, hids⟩ := List.nodup_cons.mp h
    let found := r.findings.filter fun f => f.rule.id ∈ id :: ids
    -- what is found under one of the ids is found under the first one or under one of the others
    have hfirst : found.filter (fun f => f.rule.id == id) = r.forRule id := by
      rw [List.filter_filter, forRule]
      apply List.filter_congr
      intro f _
      by_cases hf : f.rule.id = id <;> simp [hf]
    have hothers : found.filter (fun f => !(f.rule.id == id)) =
        r.findings.filter fun f => f.rule.id ∈ ids := by
      rw [List.filter_filter]
      apply List.filter_congr
      intro f _
      by_cases hf : f.rule.id = id
      · simp [hf, hid]
      · simp [hf]
    have hsplit : (r.forRule id ++ r.findings.filter fun f => f.rule.id ∈ ids).Perm found := by
      rw [← hfirst, ← hothers]
      exact List.filter_append_perm _ found
    rw [List.flatMap_cons]
    exact ((ih hids).append_left (r.forRule id)).trans hsplit

lemma sum_length_forRule (r : Report) {ids : List String} (h : ids.Nodup) :
    (ids.map fun id => (r.forRule id).length).sum =
      (r.findings.filter fun f => f.rule.id ∈ ids).length := by
  rw [← (r.flatMap_forRule_perm h).length_eq, List.length_flatMap]

section Severities

variable {rules : RuleSet} {r : Report} (hids : rules.ids.Nodup)
variable (h : ∀ f ∈ r.findings, rules.severity? f.rule.id = some f.severity)
include h

lemma filter_idsAt (severity : Severity) :
    (r.findings.filter fun f => f.rule.id ∈ rules.idsAt severity) =
      r.findings.filter (·.severity == severity) := by
  apply List.filter_congr
  intro f hf
  rw [Bool.eq_iff_iff, decide_eq_true_iff, RuleSet.mem_idsAt_iff, h f hf, Option.some.injEq,
    beq_iff_eq]

include hids

lemma count_eq (severity : Severity) :
    r.count severity = ((rules.idsAt severity).map fun id => (r.forRule id).length).sum := by
  rw [sum_length_forRule r (RuleSet.nodup_idsAt hids), filter_idsAt h, count]

lemma count_pos_iff (severity : Severity) :
    0 < r.count severity ↔ ∃ id ∈ rules.idsAt severity, r.forRule id ≠ [] := by
  rw [count_eq hids h, Nat.pos_iff_ne_zero, ne_eq, List.sum_eq_zero_iff]
  simp

lemma attributed_of_severities : r.Attributed rules := by
  have hfiled : ∀ f ∈ r.findings, f.rule.id ∈ rules.ids :=
    fun f hf => RuleSet.mem_ids_of_severity? (h f hf)
  have hall : (r.findings.filter fun f => f.rule.id ∈ rules.ids) = r.findings :=
    List.filter_eq_self.mpr fun f hf => decide_eq_true (hfiled f hf)
  refine ⟨h, ?_, ?_, ?_, count_eq hids h .error, count_eq hids h .warning, ?_, ?_⟩
  · simpa only [hall] using r.flatMap_forRule_perm hids
  · rw [r.sum_length_forRule hids, hall]
  · intro id hid
    apply List.filter_eq_nil_iff.mpr
    intro f hf hrule
    exact hid (beq_iff_eq.mp hrule ▸ hfiled f hf)
  · rw [← count_pos_iff hids h, hasErrors, errorCount, decide_eq_true_iff]
  · rw [← count_pos_iff hids h, hasWarnings, warningCount, decide_eq_true_iff]

end Severities

end Report

lemma RuleSet.mem_entries_of_mem_check {rules : RuleSet} {source : String} {s : Stmt} {f : Finding}
    (h : f ∈ rules.check source s) : (f.rule, f.severity) ∈ rules.entries := by
  obtain ⟨entry, hentry, hf⟩ := List.mem_flatMap.mp h
  obtain ⟨complaint, -, rfl⟩ := List.mem_map.mp hf
  exact hentry

lemma Run.severity?_of_mem_findings {rules : RuleSet} (hids : rules.ids.Nodup) {source : String}
    {program : Program} {f : Finding} (h : f ∈ (ofProgram rules source program).findings) :
    rules.severity? f.rule.id = some f.severity := by
  rw [findings_ofProgram] at h
  obtain ⟨s, -, hf⟩ := List.mem_flatMap.mp h
  exact RuleSet.severity?_of_mem hids (RuleSet.mem_entries_of_mem_check hf)

theorem findings_attributed_to_rules (steps : List RuleSet.Step) :
    let rules := RuleSet.after steps
    (∀ (source : String) (program : Program),
      (Run.ofProgram rules source program).report.Attributed rules) ∧
    ∀ (read : ModuleReader) (filename source : String) (program : Program),
      read filename source = .ok program →
      ∃ report, (read.lintWith rules filename source).result = .ok report ∧
        report.Attributed rules := by
  intro rules
  have hids : rules.ids.Nodup := RuleSet.nodup_ids_after steps
  constructor
  · intro source program
    exact Report.attributed_of_severities hids fun f => Run.severity?_of_mem_findings hids
  · intro read filename source program hread
    let run := Run.ofProgram rules source program
    refine ⟨run.report.sorted, by rw [read.lintWith_of_ok hread], ?_⟩
    apply Report.attributed_of_severities hids
    intro f hf
    exact Run.severity?_of_mem_findings hids ((Report.sorted_perm run.report).mem_iff.mp hf)

theorem nameThenVersion_attributed :
    ∃ report, (onlyStamped.lintWith (RuleSet.after nameThenVersion) "a.js" "").result =
        .ok report ∧
      report.Attributed (RuleSet.after nameThenVersion) ∧
      report.errorCount = (report.forRule "no-ts-version").length ∧
      report.warningCount = (report.forRule "required-properties-name").length := by
  obtain ⟨report, hreport, h⟩ :=
    (findings_attributed_to_rules nameThenVersion).2 onlyStamped "a.js" "" [stampedExport] rfl
  have herrors : (RuleSet.after nameThenVersion).idsAt .error = ["no-ts-version"] := by decide
  have hwarnings : (RuleSet.after nameThenVersion).idsAt .warning =
      ["required-properties-name"] := by decide
  refine ⟨report, hreport, h, ?_, ?_⟩
  · simpa [herrors] using h.errorCount
  · simpa [hwarnings] using h.warningCount

end ExportLint

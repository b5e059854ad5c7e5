import ExportLint.Lint
import ExportLint.Proofs.Registration
import ExportLint.Proofs.SourceOrder
import ExportLint.Proofs.Traversal
import Mathlib.Data.List.Perm.Basic

/-! Rules do not depend on one another. What a rule reports in a run of many is what it reports
alone, and the order of the rules decides nothing but the order of the findings. -/

namespace ExportLint

namespace RuleSet

/-- The rules with this id. -/
def restrict (rules : RuleSet) (id : String) : RuleSet :=
  ⟨rules.entries.filter (·.1.id == id)⟩

lemma restrict_of_mem {rules : RuleSet} (h : rules.ids.Nodup) {entry : Rule × Severity}
    (hm : entry ∈ rules.entries) : rules.restrict entry.1.id = empty.insert entry.1 entry.2 := by
  have hfilter : rules.entries.filter (·.1.id == entry.1.id) = [entry] := by
    obtain ⟨before, after, hsplit⟩ := List.append_of_mem hm
    rw [ids, hsplit, List.map_append, List.map_cons, List.nodup_middle, List.nodup_cons,
      ← List.map_append] at h
    have hne : ∀ other ∈ before ++ after, ¬ (other.1.id == entry.1.id) = true := by
      intro other ho hid
      exact h.1 (List.mem_map.mpr ⟨other, ho, by simpa using hid⟩)
    have hbefore := List.filter_eq_nil_iff.mpr fun other ho => hne other (List.mem_append_left _ ho)
    have hafter := List.filter_eq_nil_iff.mpr fun other ho => hne other (List.mem_append_right _ ho)
    rw [hsplit, List.filter_append, List.filter_cons_of_pos (by simp), hbefore, hafter]
    rfl
  rw [restrict, hfilter]
  rfl

lemma restrict_of_not_mem {rules : RuleSet} {id : String} (h : id ∉ rules.ids) :
    rules.restrict id = empty := by
  have hfilter : rules.entries.filter (·.1.id == id) = [] := by
    rw [List.filter_eq_nil_iff]
    intro entry hm hid
    exact h (List.mem_map.mpr ⟨entry, hm, by simpa using hid⟩)
  rw [restrict, hfilter]
  rfl

lemma restrict_of_perm {rules others : RuleSet} (h : rules.ids.Nodup)
    (hp : others.entries.Perm rules.entries) (id : String) :
    others.restrict id = rules.restrict id := by
  have hids : others.ids.Perm rules.ids := hp.map _
  by_cases hid : id ∈ rules.ids
  · obtain ⟨entry, hm, rfl⟩ := List.mem_map.mp hid
    rw [restrict_of_mem h hm, restrict_of_mem (hids.nodup_iff.mpr h) (hp.mem_iff.mpr hm)]
  · rw [restrict_of_not_mem hid, restrict_of_not_mem (hids.mem_iff.not.mpr hid)]

lemma check_perm {rules others : RuleSet} (hp : others.entries.Perm rules.entries)
    (source : String) (s : Stmt) : (others.check source s).Perm (rules.check source s) :=
  hp.flatMap_right _

end RuleSet

namespace Run

lemma forRule_report (rules : RuleSet) (id source : String) (program : Program) :
    (ofProgram rules source program).report.forRule id =
      (ofProgram (rules.restrict id) source program).findings :=
  filter_findings rules source program (·.id == id)

lemma findings_perm {rules others : RuleSet} (hp : others.entries.Perm rules.entries)
    (source : String) (program : Program) :
    (ofProgram others source program).findings.Perm (ofProgram rules source program).findings := by
  rw [findings_ofProgram, findings_ofProgram]
  exact List.Perm.flatMap_left _ fun s _ => RuleSet.check_perm hp source s

end Run

namespace Report

lemma forRule_sorted (r : Report) (id : String) :
    r.sorted.forRule id = (sorted ⟨r.forRule id⟩).findings := by
  have hguard : ∀ f f' : Finding, Option.guard (·.rule.id == id) f = some f' →
      f'.span = f.span := by
    intro f f' h
    rw [(Option.guard_eq_some_iff.mp h).1]
  have h := congrArg findings (sorted_filterMap hguard r)
  rw [List.filterMap_eq_filter] at h
  exact h.symm

lemma sorted_perm (r : Report) : r.sorted.findings.Perm r.findings :=
  List.mergeSort_perm _ _

end Report

namespace ModuleReader

variable (read : ModuleReader) (filename source : String)

lemma forRule_result (rules : RuleSet) (id : String) :
    (read.lintWith rules filename source).result.map (·.forRule id) =
      (read.lintWith (rules.restrict id) filename source).result.map Report.findings := by
  unfold lintWith
  cases read filename source with
  | error messages => rfl
  | ok program =>
    simp only [Except.map, Report.forRule_sorted, Run.forRule_report]
    rfl

lemma result_perm {rules others : RuleSet} (hp : others.entries.Perm rules.entries) {r : Report}
    (h : (read.lintWith rules filename source).result = .ok r) :
    ∃ r', (read.lintWith others filename source).result = .ok r' ∧
      r'.findings.Perm r.findings := by
  unfold lintWith at h ⊢
  cases hread : read filename source with
  | error messages => simp [hread] at h
  | ok program =>
    simp only [hread, Except.ok.injEq] at h
    subst h
    have hruns := Run.findings_perm hp source program
    exact ⟨_, rfl, (Report.sorted_perm _).trans (hruns.trans (Report.sorted_perm _).symm)⟩

end ModuleReader

theorem rules_report_independently (steps : List RuleSet.Step) :
    let rules := RuleSet.after steps
    (∀ entry ∈ rules.entries,
      let alone := RuleSet.empty.insert entry.1 entry.2
      (∀ (source : String) (program : Program),
        (Run.ofProgram rules source program).report.forRule entry.1.id =
          (Run.ofProgram alone source program).findings) ∧
      ∀ (read : ModuleReader) (filename source : String),
        (read.lintWith rules filename source).result.map (·.forRule entry.1.id) =
          (read.lintWith alone filename source).result.map Report.findings) ∧
    ∀ others : RuleSet, others.entries.Perm rules.entries →
      (∀ (source : String) (program : Program),
        (Run.ofProgram others source program).findings.Perm
          (Run.ofProgram rules source program).findings ∧
        ∀ id, (Run.ofProgram others source program).report.forRule id =
          (Run.ofProgram rules source program).report.forRule id) ∧
      ∀ (read : ModuleReader) (filename source : String),
        (∀ r, (read.lintWith rules filename source).result = .ok r →
          ∃ r', (read.lintWith others filename source).result = .ok r' ∧
            r'.findings.Perm r.findings) ∧
        ∀ id, (read.lintWith others filename source).result.map (·.forRule id) =
          (read.lintWith rules filename source).result.map (·.forRule id) := by
  intro rules
  have hids : rules.ids.Nodup := RuleSet.nodup_ids_after steps
  constructor
  · intro entry hm alone
    have halone : rules.restrict entry.1.id = alone := RuleSet.restrict_of_mem hids hm
    constructor
    · intro source program
      rw [Run.forRule_report, halone]
    · intro read filename source
      rw [read.forRule_result, halone]
  · intro others hp
    have hrestrict := RuleSet.restrict_of_perm hids hp
    constructor
    · intro source program
      refine ⟨Run.findings_perm hp source program, fun id => ?_⟩
      rw [Run.forRule_report, Run.forRule_report, hrestrict]
    · intro read filename source
      refine ⟨fun r => read.result_perm filename source hp, fun id => ?_⟩
      rw [read.forRule_result, read.forRule_result, hrestrict]

def nameThenVersion : List RuleSet.Step :=
  [.insert (.required .name) .warning, .insert .unstamped .error]

def stampedExport : Stmt :=
  .exportDefault ⟨0, 40⟩ (.expr (.object ⟨15, 40⟩
    [.property ⟨17, 38⟩ (.word ⟨17, 24⟩ "version") (.string ⟨26, 38⟩ "\x7b\x7bts\x7d\x7d")]))

def onlyStamped : ModuleReader := fun _ _ => .ok [stampedExport]

theorem nameThenVersion_report_independently :
    ((Run.ofProgram (RuleSet.after nameThenVersion) "" [stampedExport]).report.forRule
        "no-ts-version" =
      (Run.ofProgram (RuleSet.empty.insert .unstamped .error) "" [stampedExport]).findings) ∧
    (Run.ofProgram ⟨[(.unstamped, .error), (.required .name, .warning)]⟩ ""
        [stampedExport]).findings.Perm
      (Run.ofProgram (RuleSet.after nameThenVersion) "" [stampedExport]).findings ∧
    ∃ r', (onlyStamped.lintWith ⟨[(.unstamped, .error), (.required .name, .warning)]⟩ "a.js"
        "").result = .ok r' ∧
      r'.findings.Perm (Run.ofProgram (RuleSet.after nameThenVersion) ""
        [stampedExport]).report.sorted.findings := by
  obtain ⟨halone, horder⟩ := rules_report_independently nameThenVersion
  have hswap : [(Rule.unstamped, Severity.error), (.required .name, .warning)].Perm
      (RuleSet.after nameThenVersion).entries := by decide
  obtain ⟨hrun, hlint⟩ := horder ⟨_⟩ hswap
  exact ⟨(halone (.unstamped, .error) (by decide)).1 "" [stampedExport],
    (hrun "" [stampedExport]).1, (hlint onlyStamped "a.js" "").1 _ rfl⟩

end ExportLint

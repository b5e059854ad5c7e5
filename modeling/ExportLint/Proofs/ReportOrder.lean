import ExportLint.Proofs.Announcements
import ExportLint.Proofs.Independence

/-! A report gives what its run found, in the order of the source. Findings in one place keep the
order in which they were found: that of the statements, and for each statement that of the rules. -/

namespace ExportLint

/-- The reported findings are those that were found, in the order of their spans. Findings with one
span are reported in the order they were found in. -/
structure InSourceOrder (found reported : List Finding) : Prop where
  perm : reported.Perm found
  sorted : reported.Pairwise fun f g =>
    f.span.start < g.span.start ∨ f.span.start = g.span.start ∧ f.span.stop ≤ g.span.stop
  stable (span : Span) : reported.filter (·.span = span) = found.filter (·.span = span)

lemma Span.le_refl (s : Span) : s.le s = true := by
  simp [le_iff]

lemma Span.eq_of_le {a b : Span} (hab : a.le b = true) (hba : b.le a = true) : a = b := by
  rw [le_iff] at hab hba
  have hstart : a.start = b.start := by omega
  have hstop : a.stop = b.stop := by omega
  cases a
  cases b
  exact congrArg₂ Span.mk hstart hstop

section Sorting

variable {α : Type} (place : α → Span)

lemma filter_mergeSort (l : List α) (span : Span) :
    (l.mergeSort fun a b => (place a).le (place b)).filter (place · = span) =
      l.filter (place · = span) := by
  have hguard : ∀ a b, Option.guard (place · = span) a = some b → b = a := by
    intro a b h
    exact (Option.guard_eq_some_iff.mp h).1.symm
  have hfilter : (l.filter (place · = span)).mergeSort (fun a b => (place a).le (place b)) =
      (l.mergeSort fun a b => (place a).le (place b)).filter (place · = span) := by
    rw [← List.filterMap_eq_filter]
    apply mergeSort_filterMap
    · exact fun a b c => Span.le_trans (place a) (place b) (place c)
    · exact fun a b => Span.le_total (place a) (place b)
    · intro a b a' b' ha hb
      rw [hguard a a' ha, hguard b b' hb]
  have htied : (l.filter (place · = span)).Pairwise fun a b => (place a).le (place b) = true := by
    rw [List.pairwise_filter]
    refine List.pairwise_of_forall fun a b ha hb => ?_
    rw [decide_eq_true_eq] at ha hb
    rw [ha, hb, Span.le_refl]
  rw [← hfilter, List.mergeSort_of_pairwise htied]

/-- What holds between elements in their order still holds, after sorting, between those in one
place. -/
lemma pairwise_ties_mergeSort {R : α → α → Prop} {l : List α} (h : l.Pairwise R) :
    (l.mergeSort fun a b => (place a).le (place b)).Pairwise fun a b => place a = place b → R a b := by
  rw [List.pairwise_iff_forall_sublist]
  intro a b hsub hab
  have htied := h.filter (place · = place b)
  rw [← filter_mergeSort, List.pairwise_filter, List.pairwise_iff_forall_sublist] at htied
  exact htied hsub (by simpa using hab) (by simp)

end Sorting

lemma mem_iff_of_filter_span {l m : List Finding}
    (h : ∀ span, l.filter (·.span = span) = m.filter (·.span = span)) (f : Finding) :
    f ∈ l ↔ f ∈ m := by
  have hf : f ∈ l.filter (·.span = f.span) ↔ f ∈ m.filter (·.span = f.span) := by rw [h]
  simpa using hf

lemma filter_span_tail {f : Finding} {l m : List Finding}
    (h : ∀ span, (f :: l).filter (·.span = span) = (f :: m).filter (·.span = span)) (span : Span) :
    l.filter (·.span = span) = m.filter (·.span = span) := by
  have hcons := h span
  rw [List.filter_cons, List.filter_cons] at hcons
  split at hcons
  · exact (List.cons.inj hcons).2
  · exact hcons

lemma head_le_of_mem {f g : Finding} {l : List Finding}
    (h : (f :: l).Pairwise fun f g => f.span.le g.span = true) (hg : g ∈ f :: l) :
    f.span.le g.span = true := by
  rcases List.mem_cons.mp hg with rfl | hg
  · exact Span.le_refl _
  · exact (List.pairwise_cons.mp h).1 g hg

/-- A list in the order of its spans is known by what stands in it in each place. -/
lemma eq_of_filter_span {l m : List Finding}
    (h : ∀ span, l.filter (·.span = span) = m.filter (·.span = span))
    (hl : l.Pairwise fun f g => f.span.le g.span = true)
    (hm : m.Pairwise fun f g => f.span.le g.span = true) : l = m := by
  induction l generalizing m with
  | nil => exact (List.eq_nil_iff_forall_not_mem.mpr fun f hf => by
      simpa using (mem_iff_of_filter_span h f).mpr hf).symm
  | cons f l ih =>
    have hf : f ∈ m := (mem_iff_of_filter_span h f).mp List.mem_cons_self
    cases m with
    | nil => exact (List.not_mem_nil hf).elim
    | cons g m =>
      have hg : g ∈ f :: l := (mem_iff_of_filter_span h g).mpr List.mem_cons_self
      -- both heads are least, so they stand in one place, and are the first there in both lists
      have hspan : f.span = g.span :=
        Span.eq_of_le (head_le_of_mem hl hg) (head_le_of_mem hm hf)
      have hhead := h f.span
      rw [List.filter_cons_of_pos (by simp), List.filter_cons_of_pos (by simp [hspan])] at hhead
      obtain ⟨rfl, -⟩ := List.cons.inj hhead
      rw [ih (filter_span_tail h) hl.of_cons hm.of_cons]

namespace Report

lemma pairwise_sorted (r : Report) :
    r.sorted.findings.Pairwise fun f g => f.span.le g.span = true :=
  List.pairwise_mergeSort (fun a b c => Span.le_trans a.span b.span c.span)
    (fun a b => Span.le_total a.span b.span) r.findings

lemma inSourceOrder_iff {r : Report} {l : List Finding} :
    InSourceOrder r.findings l ↔ l = r.sorted.findings := by
  constructor
  · intro h
    have hl : l.Pairwise fun f g => f.span.le g.span = true :=
      h.sorted.imp fun hfg => (Span.le_iff _ _).mpr hfg
    refine eq_of_filter_span (fun span => ?_) hl r.pairwise_sorted
    rw [h.stable, sorted, filter_mergeSort Finding.span]
  · rintro rfl
    exact
      { perm := r.sorted_perm
        sorted := r.pairwise_sorted.imp fun hfg => (Span.le_iff _ _).mp hfg
        stable := filter_mergeSort Finding.span r.findings }

end Report

/-- A finding with the address of the statement it is about and the place of its rule in the running
order. -/
structure Traced where
  address : Address
  place : ℕ
  finding : Finding

def RuleSet.traced (rules : RuleSet) (source : String) (x : Address × Stmt) : List Traced :=
  rules.entries.zipIdx.flatMap fun ((rule, severity), place) =>
    (rule.check source x.2).map fun complaint => ⟨x.1, place, rule, severity, complaint⟩

def Program.traced (program : Program) (rules : RuleSet) (source : String) : List Traced :=
  program.announced.flatMap (rules.traced source)

lemma RuleSet.map_finding_traced (rules : RuleSet) (source : String) (x : Address × Stmt) :
    (rules.traced source x).map Traced.finding = rules.check source x.2 := by
  conv_rhs => rw [check, ← List.zipIdx_map_fst 0 rules.entries, List.flatMap_map]
  rw [traced, List.map_flatMap]
  simp only [List.map_map, Function.comp_def]

lemma RuleSet.pairwise_place_traced (rules : RuleSet) (source : String) (x : Address × Stmt) :
    (rules.traced source x).Pairwise fun t u => t.place ≤ u.place := by
  have hplaces : rules.entries.zipIdx.Pairwise fun x y => x.2 < y.2 := by
    rw [← List.pairwise_map (f := Prod.snd) (R := (· < ·)), List.zipIdx_map_snd]
    exact List.pairwise_lt_range'
  rw [traced, List.pairwise_flatMap]
  constructor
  · rintro ⟨⟨rule, severity⟩, place⟩ -
    rw [List.pairwise_map]
    exact List.pairwise_of_forall fun _ _ => le_rfl
  · refine hplaces.imp fun hxy t ht u hu => ?_
    obtain ⟨_, -, rfl⟩ := List.mem_map.mp ht
    obtain ⟨_, -, rfl⟩ := List.mem_map.mp hu
    exact hxy.le

lemma RuleSet.address_of_mem_traced {rules : RuleSet} {source : String} {x : Address × Stmt}
    {t : Traced} (h : t ∈ rules.traced source x) : t.address = x.1 := by
  obtain ⟨_, -, ht⟩ := List.mem_flatMap.mp h
  obtain ⟨_, -, rfl⟩ := List.mem_map.mp ht
  rfl

namespace Program

variable (program : Program) (rules : RuleSet) (source : String)

lemma map_finding_traced : (program.traced rules source).map Traced.finding =
    (Run.ofProgram rules source program).findings := by
  rw [Run.findings_eq_announced, traced, List.map_flatMap]
  simp only [RuleSet.map_finding_traced]

lemma pairwise_traced : (program.traced rules source).Pairwise fun t u =>
    t.address < u.address ∨ t.address = u.address ∧ t.place ≤ u.place := by
  rw [traced, List.pairwise_flatMap]
  constructor
  · intro x _
    refine (rules.pairwise_place_traced source x).imp_of_mem fun ht hu hplace => .inr ⟨?_, hplace⟩
    rw [RuleSet.address_of_mem_traced ht, RuleSet.address_of_mem_traced hu]
  · refine program.announced_pairwise.imp fun hxy t ht u hu => .inl ?_
    rwa [RuleSet.address_of_mem_traced ht, RuleSet.address_of_mem_traced hu]

end Program

theorem report_keeps_order_of_ties (read : ModuleReader) (rules : RuleSet)
    {filename source : String} {program : Program} (h : read filename source = .ok program) :
    let run := Run.ofProgram rules source program
    let traced := program.traced rules source
    ∃ report, (read.lintWith rules filename source).result = .ok report ∧
      (∀ l, InSourceOrder run.findings l ↔ l = report.findings) ∧
      (∀ id l, InSourceOrder (run.report.forRule id) l ↔ l = report.forRule id) ∧
      traced.map Traced.finding = run.findings ∧
      ∃ sorted : List Traced, sorted.Perm traced ∧
        sorted.map Traced.finding = report.findings ∧
        sorted.Pairwise fun t u => t.finding.span = u.finding.span →
          t.address < u.address ∨ t.address = u.address ∧ t.place ≤ u.place := by
  intro run traced
  have htraced : traced.map Traced.finding = run.findings := program.map_finding_traced rules source
  refine ⟨run.report.sorted, by rw [read.lintWith_of_ok h], fun l => Report.inSourceOrder_iff, ?_,
    htraced, traced.mergeSort fun t u => t.finding.span.le u.finding.span, ?_, ?_, ?_⟩
  · intro id l
    rw [Report.forRule_sorted]
    exact Report.inSourceOrder_iff (r := ⟨_⟩)
  · exact List.mergeSort_perm _ _
  · have hmap : (traced.mergeSort fun t u => t.finding.span.le u.finding.span).map Traced.finding =
        (traced.map Traced.finding).mergeSort fun f g => f.span.le g.span :=
      List.map_mergeSort fun _ _ _ _ => rfl
    rw [hmap, htraced]
    rfl
  · exact pairwise_ties_mergeSort (fun t : Traced => t.finding.span)
      (program.pairwise_traced rules source)

def stampedAt (span : Span) : Stmt :=
  .exportDefault span (.expr (.object span
    [.property ⟨9, 4⟩ (.word ⟨9, 4⟩ "version") (.string ⟨9, 4⟩ "\x7b\x7bts\x7d\x7d")]))

/-- The span of the first statement is reversed, and its version stands in the same place. -/
def onlyTied : ModuleReader := fun _ _ => .ok [stampedAt ⟨9, 4⟩, stampedAt ⟨3, 8⟩]

def unstampedFirst : RuleSet := ⟨[(.unstamped, .warning), (.required .key, .error)]⟩

theorem onlyTied_keeps_order :
    let run := Run.ofProgram unstampedFirst "" [stampedAt ⟨9, 4⟩, stampedAt ⟨3, 8⟩]
    ∃ report, (onlyTied.lintWith unstampedFirst "a.js" "").result = .ok report ∧
      InSourceOrder run.findings report.findings ∧
      InSourceOrder (run.report.forRule "no-ts-version") (report.forRule "no-ts-version") ∧
      (report.findings.map fun f => (f.rule, f.span)) =
        [(.required .key, ⟨3, 8⟩), (.unstamped, ⟨9, 4⟩), (.required .key, ⟨9, 4⟩),
          (.unstamped, ⟨9, 4⟩)] := by
  intro run
  have hread : onlyTied "a.js" "" = .ok [stampedAt ⟨9, 4⟩, stampedAt ⟨3, 8⟩] := rfl
  obtain ⟨report, hreport, horder, hrule, -⟩ :=
    report_keeps_order_of_ties onlyTied unstampedFirst hread
  let stamp : Finding := ⟨.unstamped, .warning, ⟨9, 4⟩, Rule.unstampedMessage⟩
  let missing (span : Span) : Finding :=
    ⟨.required .key, .error, span, Rule.requiredMessage .key⟩
  let tied := [stamp, missing ⟨9, 4⟩, stamp]
  have hfound : run.findings = tied ++ [missing ⟨3, 8⟩] := by rfl
  have hsorted : InSourceOrder run.findings ([missing ⟨3, 8⟩] ++ tied) := by
    rw [hfound]
    refine ⟨List.perm_append_comm, by decide, fun span => ?_⟩
    rw [List.filter_append, List.filter_append]
    by_cases hspan : span = ⟨3, 8⟩
    · subst hspan
      rfl
    · have hnone : [missing ⟨3, 8⟩].filter (·.span = span) = [] :=
        List.filter_cons_of_neg fun h => hspan (of_decide_eq_true h).symm
      rw [hnone, List.nil_append, List.append_nil]
  refine ⟨report, hreport, (horder _).mpr rfl, (hrule _ _).mpr rfl, ?_⟩
  rw [← (horder _).mp hsorted]
  rfl

end ExportLint

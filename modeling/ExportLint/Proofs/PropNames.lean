import ExportLint.Proofs.Exports
import ExportLint.Proofs.Guidelines
import ExportLint.Proofs.Lookalikes
import ExportLint.Proofs.Slices

/-! A run looks at the source for one thing: how a message names a prop whose key has no name of its
own. What is found, and where, the tree alone decides. -/

namespace ExportLint

/-- The module exports a component that describes the prop in place. -/
def Program.DescribesProp (program : Program) (p : Property) : Prop :=
  ∃ a s o d, program.stmtAt? a = some s ∧ s.Exports o ∧ o.Describes p d

lemma Program.describesProp_iff {program : Program} {p : Property} :
    program.DescribesProp p ↔ ∃ x ∈ program.exports, ∃ q ∈ x.2.props, q.property = p := by
  constructor
  · rintro ⟨a, s, o, d, hs, ho, hd⟩
    have hc : s.component? = some ⟨o⟩ := Stmt.component?_eq_some_iff.mpr ho
    refine ⟨(s.span, ⟨o⟩), ?_, ⟨p, d⟩, Component.mem_props_iff.mpr hd, rfl⟩
    exact List.mem_filterMap.mpr ⟨s, mem_statements_iff.mpr ⟨a, hs⟩, by simp [Stmt.shipped?, hc]⟩
  · rintro ⟨x, hx, q, hq, rfl⟩
    obtain ⟨s, hs, hshipped⟩ := List.mem_filterMap.mp hx
    obtain ⟨c, hc, rfl⟩ := Option.map_eq_some_iff.mp hshipped
    obtain ⟨a, ha⟩ := mem_statements_iff.mp hs
    exact ⟨a, s, c.object, q.definition, ha, Stmt.component?_eq_some_iff.mp hc,
      Component.mem_props_iff.mp hq⟩

section TwoSources

variable {source source' : String}

lemma PropEntry.displayName_eq {p : PropEntry}
    (h : p.property.key.name? = none →
      ∃ text, p.property.key.span.Shows source text ∧ p.property.key.span.Shows source' text) :
    p.displayName source = p.displayName source' := by
  rw [displayName, displayName]
  cases hname : p.property.key.name? with
  | some name => rfl
  | none =>
    obtain ⟨text, ht, ht'⟩ := h hname
    rw [Span.shows_iff.mp ht, Span.shows_iff.mp ht']

namespace Rule

lemma examine_eq_of_not_aboutProp {r : Rule} (h : r.aboutProp? = none) (span : Span)
    (c : Component) : r.examine source span c = r.examine source' span c := by
  cases r with
  | described field => cases h
  | defaulted => cases h
  | _ => rfl

lemma map_span_examine (r : Rule) (span : Span) (c : Component) :
    (r.examine source span c).map Complaint.span =
      (r.examine source' span c).map Complaint.span := by
  cases hr : r.aboutProp? with
  | none => rw [examine_eq_of_not_aboutProp hr]
  | some write =>
    obtain ⟨blames, hblames⟩ := exists_blames hr
    simp only [hblames, List.map_map, Function.comp_def]

lemma examine_eq_of_names {c : Component}
    (h : ∀ p ∈ c.props, p.displayName source = p.displayName source') (r : Rule) (span : Span) :
    r.examine source span c = r.examine source' span c := by
  cases hr : r.aboutProp? with
  | none => exact examine_eq_of_not_aboutProp hr span c
  | some write =>
    obtain ⟨blames, hblames⟩ := exists_blames hr
    rw [hblames, hblames]
    apply List.map_congr_left
    intro p hp
    rw [h p (List.mem_of_mem_filter hp)]

end Rule

namespace Run

lemma map_place_findings (rules : RuleSet) (program : Program) :
    ((ofProgram rules source program).findings.map fun f => (f.rule, f.severity, f.span)) =
      (ofProgram rules source' program).findings.map fun f => (f.rule, f.severity, f.span) := by
  have hplaces : ∀ source, (ofProgram rules source program).findings.map
      (fun f => (f.rule, f.severity, f.span)) = program.exports.flatMap fun x =>
        rules.entries.flatMap fun entry =>
          ((entry.1.examine source x.1 x.2).map Complaint.span).map fun span =>
            (entry.1, entry.2, span) := by
    intro source
    simp only [findings_eq_exports, List.map_flatMap, RuleSet.examine, List.map_map]
    rfl
  rw [hplaces, hplaces]
  apply List.flatMap_congr
  intro x _
  apply List.flatMap_congr
  intro entry _
  rw [Rule.map_span_examine]

lemma ofProgram_eq_of_names {program : Program}
    (h : ∀ x ∈ program.exports, ∀ p ∈ x.2.props, p.displayName source = p.displayName source')
    (rules : RuleSet) : ofProgram rules source program = ofProgram rules source' program := by
  have hfindings : (ofProgram rules source program).findings =
      (ofProgram rules source' program).findings := by
    rw [findings_eq_exports, findings_eq_exports]
    apply List.flatMap_congr
    intro x hx
    apply List.flatMap_congr
    rintro ⟨rule, severity⟩ _
    simp only [Rule.examine_eq_of_names (h x hx) rule]
  have hevents : (ofProgram rules source program).events =
      (ofProgram rules source' program).events := by
    rw [events_eq_exports, events_eq_exports, hfindings]
  exact congrArg₂ Run.mk hfindings hevents

end Run

end TwoSources

theorem source_read_only_for_prop_names (rules : RuleSet) (program : Program)
    (source source' : String) :
    let run := fun source => Run.ofProgram rules source program
    ((run source).findings.map fun f => (f.rule, f.severity, f.span)) =
      ((run source').findings.map fun f => (f.rule, f.severity, f.span)) ∧
    ((∀ p, program.DescribesProp p → p.key.name? = none →
        ∃ text, p.key.span.Shows source text ∧ p.key.span.Shows source' text) →
      run source = run source') ∧
    ((∀ p, program.DescribesProp p → p.key.name? ≠ none) → run source = run source') := by
  intro run
  have hsame : (∀ p, program.DescribesProp p → p.key.name? = none →
      ∃ text, p.key.span.Shows source text ∧ p.key.span.Shows source' text) →
      run source = run source' := by
    intro h
    apply Run.ofProgram_eq_of_names
    intro x hx p hp
    have hdescribed := Program.describesProp_iff.mpr ⟨x, hx, p, hp, rfl⟩
    exact PropEntry.displayName_eq (h p.property hdescribed)
  refine ⟨Run.map_place_findings rules program, hsame, fun hnamed => hsame ?_⟩
  intro p hp hnone
  exact (hnamed p hp hnone).elim

def sharedText : Expr :=
  .object ⟨0, 0⟩ [.spread ⟨0, 0⟩ (.identifier ⟨0, 0⟩ "text")]

def twoProps (key key' : Key) : Program :=
  [.exportDefault ⟨0, 0⟩ (.expr (.object ⟨0, 0⟩
    [.property ⟨0, 0⟩ (.word ⟨0, 0⟩ "props") (.object ⟨0, 0⟩
      [.property ⟨0, 0⟩ key sharedText, .property ⟨0, 0⟩ key' sharedText])]))]

lemma key_of_describesProp_twoProps {key key' : Key} {p : Property}
    (h : (twoProps key key').DescribesProp p)
    (hkeys : (Part.key key).statements = [] ∧ (Part.key key').statements = []) :
    p.key = key ∨ p.key = key' := by
  have hstatements : (twoProps key key').statements = twoProps key key' := by
    simp [twoProps, sharedText, Program.statements, Part.statements_eq, Part.children, Node.part,
      Part.stmt?, ↓hkeys.1, ↓hkeys.2]
  obtain ⟨x, hx, q, hq, rfl⟩ := Program.describesProp_iff.mp h
  rw [Program.exports, hstatements] at hx
  obtain rfl := List.mem_singleton.mp hx
  have hkey : q.property.key ∈ [key, key'] :=
    List.mem_map_of_mem (f := fun q : PropEntry => q.property.key) hq
  exact List.mem_pair.mp hkey

/-- The first key shows `42` in both sources. The second has a reversed span, and shows nothing. -/
def unnamedProps : Program :=
  twoProps (.expr (.number ⟨0, 2⟩ (.ofNat 42))) (.expr (.regexp ⟨9, 4⟩))

def namedProps : Program :=
  twoProps (.word ⟨0, 2⟩ "a") (.expr (.string ⟨9, 4⟩ "b"))

theorem unnamedProps_source_read :
    Run.ofProgram .all "42 é" unnamedProps = Run.ofProgram .all "42!" unnamedProps ∧
    Run.ofProgram .all "42 é" namedProps = Run.ofProgram .all "" namedProps := by
  constructor
  · apply (source_read_only_for_prop_names .all unnamedProps "42 é" "42!").2.1
    intro p hp _
    rcases key_of_describesProp_twoProps hp
      (by simp [Part.statements_eq, Part.children, Part.stmt?]) with hkey | hkey
    · rw [hkey]
      exact ⟨"42", Span.shows_iff.mpr (by decide), Span.shows_iff.mpr (by decide)⟩
    · rw [hkey]
      exact ⟨"", Span.shows_iff.mpr (by decide), Span.shows_iff.mpr (by decide)⟩
  · apply (source_read_only_for_prop_names .all namedProps "42 é" "").2.2
    intro p hp
    rcases key_of_describesProp_twoProps hp
      (by simp [Part.statements_eq, Part.children, Part.stmt?]) with hkey | hkey
    · simp [hkey, Key.name?]
    · simp [hkey, Key.name?]

end ExportLint

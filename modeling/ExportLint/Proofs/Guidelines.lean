import ExportLint.Proofs.Spelling
import ExportLint.Proofs.Traversal
import ExportLint.Proofs.Values

/-! The guidelines, said of components without the rules that check them. A run with every rule on
finds nothing exactly if every component that a module exports follows them. -/

namespace ExportLint

inductive Stmt.Exports : Stmt → ObjectLiteral → Prop
  | default {span value o} : value.Denotes o → Exports (.exportDefault span (.expr value)) o
  | assigned {span span' operator memberSpan moduleSpan value o} : value.Denotes o →
      Exports (.expression span (.assignment span' operator
        (.member memberSpan (.identifier moduleSpan "module") "exports") value)) o

namespace ObjectLiteral

def Reads (o : ObjectLiteral) (name text : String) : Prop :=
  ∃ p, Entry.First name o.entries p ∧ p.value.StaticText text

/-- The prop `p` is described in place, by `d`. -/
def Describes (o : ObjectLiteral) (p : Property) (d : ObjectLiteral) : Prop :=
  ∃ holder props, Entry.Holder o.entries holder ∧ holder.value.Denotes props ∧
    .property p.span p.key p.value ∈ props.entries ∧ p.value.Denotes d ∧ ¬ d.Has "propDefinition"

def IsOptional (d : ObjectLiteral) : Prop :=
  ∃ p, Entry.First "optional" d.entries p ∧ p.value.Truthy

structure FollowsGuidelines (o : ObjectLiteral) : Prop where
  key : o.Has "key"
  name : o.Has "name"
  version : o.Has "version"
  description : o.Has "description"
  type : o.Has "type"
  unstamped : ∀ text, o.Reads "version" text → ¬ "\x7b\x7bts\x7d\x7d".toList <:+: text.toList
  sourceName : o.Reads "type" "source" → ∀ text, o.Reads "name" text →
    "New ".toList <+: text.toList
  sourceDescription : o.Reads "type" "source" → ∀ text, o.Reads "description" text →
    "Emit new ".toList <+: text.toList
  propLabels : ∀ p d, o.Describes p d → d.Has "label"
  propDescriptions : ∀ p d, o.Describes p d → d.Has "description"
  propDefaults : ∀ p d, o.Describes p d → d.IsOptional → d.Has "default"

end ObjectLiteral

namespace Rule

def Satisfied (o : ObjectLiteral) : Rule → Prop
  | required field => o.Has field.word
  | described field => ∀ p d, o.Describes p d → d.Has field.word
  | defaulted => ∀ p d, o.Describes p d → d.IsOptional → d.Has "default"
  | opening field => o.Reads "type" "source" → ∀ text, o.Reads field.word text →
      (field.opening ++ " ").toList <+: text.toList
  | unstamped => ∀ text, o.Reads "version" text → ¬ placeholder.toList <:+: text.toList

lemma occurs_iff {part text : List Char} : occurs part text = true ↔ part <:+: text := by
  induction text with
  | nil => simp [occurs]
  | cons c cs ih =>
    rw [occurs, Bool.or_eq_true, List.isPrefixOf_iff_prefix, ih, List.infix_cons_iff]

lemma opens_iff {opening text : String} :
    opens opening text = true ↔ opening.toList <+: text.toList :=
  List.isPrefixOf_iff_prefix

end Rule

lemma PropEntry.ofProperty?_eq_some_iff {p : Property} {q : PropEntry} :
    ofProperty? p = some q ↔
      q.property = p ∧ p.value.Denotes q.definition ∧ ¬ q.definition.Has "propDefinition" := by
  simp only [ofProperty?, Option.bind_eq_bind, Option.bind_eq_some_iff,
    Expr.object?_eq_some_iff, ← ObjectLiteral.contains_iff]
  constructor
  · rintro ⟨d, hd, h⟩
    split at h
    · cases h
    · cases h
      exact ⟨rfl, hd, ‹_›⟩
  · rintro ⟨rfl, hd, hm⟩
    exact ⟨q.definition, hd, if_neg hm⟩

lemma Entry.mem_filterMap_property?_iff {entries : List Entry} {p : Property} :
    p ∈ entries.filterMap property? ↔ property p.span p.key p.value ∈ entries := by
  simp only [List.mem_filterMap, property?_eq_some_iff, exists_eq_right]

lemma Entry.heldObject?_eq_some_iff {entries : List Entry} {o : ObjectLiteral} :
    propsHolder? entries >>= (·.value.object?) = some o ↔
      ∃ holder, Holder entries holder ∧ holder.value.Denotes o := by
  simp only [Option.bind_eq_bind, Option.bind_eq_some_iff, propsHolder?_eq_some_iff,
    Expr.object?_eq_some_iff]

lemma Component.mem_props_iff {c : Component} {p : PropEntry} :
    p ∈ c.props ↔ c.object.Describes p.property p.definition := by
  have hdescribes : c.object.Describes p.property p.definition ↔
      ∃ o, Entry.propsHolder? c.object.entries >>= (·.value.object?) = some o ∧
        ∃ q ∈ o.entries.filterMap Entry.property?, PropEntry.ofProperty? q = some p := by
    simp only [Entry.heldObject?_eq_some_iff, PropEntry.ofProperty?_eq_some_iff,
      Entry.mem_filterMap_property?_iff]
    constructor
    · rintro ⟨holder, o, hh, ho, hm, hd, hi⟩
      exact ⟨o, ⟨holder, hh, ho⟩, p.property, hm, rfl, hd, hi⟩
    · rintro ⟨o, ⟨holder, hh, ho⟩, _, hm, rfl, hd, hi⟩
      exact ⟨holder, o, hh, ho, hm, hd, hi⟩
  rw [hdescribes, props]
  cases Entry.propsHolder? c.object.entries >>= (·.value.object?) with
  | none => simp
  | some o => simp only [List.mem_filterMap, Option.some.injEq, exists_eq_left']

lemma ObjectLiteral.reads_iff {o : ObjectLiteral} {name text : String} :
    o.Reads name text ↔ ∃ p, o.find? name = some p ∧ p.value.staticString? = some text := by
  simp only [Reads, find?, Entry.find?_eq_some_iff, Expr.staticString?_eq_some_iff]

lemma Component.sourceProperty?_eq_some_iff {c : Component} {name : String} {p : Property} :
    c.sourceProperty? name = some p ↔
      c.object.Reads "type" "source" ∧ c.object.find? name = some p := by
  simp only [sourceProperty?, find?, Option.bind_eq_bind, Option.bind_eq_some_iff,
    ObjectLiteral.reads_iff]
  constructor
  · rintro ⟨type, ht, h⟩
    split at h
    · exact ⟨⟨type, ht, ‹_›⟩, h⟩
    · cases h
  · rintro ⟨⟨type, ht, hs⟩, hp⟩
    exact ⟨type, ht, by rw [if_pos hs, hp]⟩

lemma Rule.isOptional_iff {p : PropEntry} : isOptional p = true ↔ p.definition.IsOptional := by
  simp only [isOptional, ObjectLiteral.IsOptional, ← Entry.find?_eq_some_iff,
    ← Expr.truthy?_eq_some_true_iff, Option.getD_eq_iff, Option.bind_eq_some_iff]
  simp [ObjectLiteral.find?]

namespace Rule

variable (source : String) (span : Span) (c : Component)

lemma examine_required (field : Metadata) :
    (required field).examine source span c = [] ↔ Satisfied c.object (required field) := by
  rw [Satisfied, ← ObjectLiteral.contains_iff, examine, Component.contains]
  cases c.object.contains field.word <;> simp

lemma examine_described (field : PropText) :
    (described field).examine source span c = [] ↔ Satisfied c.object (described field) := by
  simp only [examine, Satisfied, List.map_eq_nil_iff, List.filter_eq_nil_iff]
  constructor
  · intro h p d hd
    have hp := h ⟨p, d⟩ (Component.mem_props_iff.mpr hd)
    exact ObjectLiteral.contains_iff.mp (by simpa using hp)
  · intro h p hp
    simpa using ObjectLiteral.contains_iff.mpr (h _ _ (Component.mem_props_iff.mp hp))

lemma examine_defaulted :
    defaulted.examine source span c = [] ↔ Satisfied c.object defaulted := by
  simp only [examine, Satisfied, List.map_eq_nil_iff, List.filter_eq_nil_iff]
  constructor
  · intro h p d hd ho
    have hp := h ⟨p, d⟩ (Component.mem_props_iff.mpr hd)
    have hi : isOptional ⟨p, d⟩ = true := isOptional_iff.mpr ho
    exact ObjectLiteral.contains_iff.mp (by simpa [hi] using hp)
  · intro h p hp
    have hd := h _ _ (Component.mem_props_iff.mp hp)
    rw [← isOptional_iff, ← ObjectLiteral.contains_iff] at hd
    simpa using hd

lemma examine_opening (field : SourceText) :
    (opening field).examine source span c = [] ↔ Satisfied c.object (opening field) := by
  have hsource : Satisfied c.object (opening field) ↔
      ∀ p, c.sourceProperty? field.word = some p → ∀ text, p.value.staticString? = some text →
        opens (field.opening ++ " ") text = true := by
    constructor
    · intro h p hp text ht
      obtain ⟨hs, hf⟩ := Component.sourceProperty?_eq_some_iff.mp hp
      exact opens_iff.mpr (h hs text (ObjectLiteral.reads_iff.mpr ⟨p, hf, ht⟩))
    · intro h hs text ht
      obtain ⟨p, hf, ht⟩ := ObjectLiteral.reads_iff.mp ht
      exact opens_iff.mp (h p (Component.sourceProperty?_eq_some_iff.mpr ⟨hs, hf⟩) text ht)
  rw [hsource, examine]
  cases c.sourceProperty? field.word with
  | none => simp
  | some p =>
    cases ht : p.value.staticString? with
    | none => simp [ht]
    | some text => cases opens (field.opening ++ " ") text <;> simp [ht]

lemma examine_unstamped :
    unstamped.examine source span c = [] ↔ Satisfied c.object unstamped := by
  simp only [examine, Satisfied, ObjectLiteral.reads_iff, Component.find?, ← occurs_iff]
  cases c.object.find? "version" with
  | none => simp
  | some p =>
    cases hs : p.value.staticString? with
    | none => simp [hs]
    | some text => cases occurs placeholder.toList text.toList <;> simp [hs]

lemma examine_eq_nil_iff (r : Rule) : r.examine source span c = [] ↔ Satisfied c.object r := by
  cases r with
  | required field => exact examine_required source span c field
  | described field => exact examine_described source span c field
  | defaulted => exact examine_defaulted source span c
  | opening field => exact examine_opening source span c field
  | unstamped => exact examine_unstamped source span c

lemma forall_satisfied_iff (o : ObjectLiteral) :
    (∀ r ∈ all, Satisfied o r) ↔ o.FollowsGuidelines := by
  constructor
  · intro h
    exact
      { key := h (required .key) (by decide)
        name := h (required .name) (by decide)
        version := h (required .version) (by decide)
        description := h (required .description) (by decide)
        type := h (required .type) (by decide)
        unstamped := h unstamped (by decide)
        sourceName := h (opening .name) (by decide)
        sourceDescription := h (opening .description) (by decide)
        propLabels := h (described .label) (by decide)
        propDescriptions := h (described .description) (by decide)
        propDefaults := h defaulted (by decide) }
  · intro h r _
    cases r with
    | required field =>
      cases field with
      | key => exact h.key
      | name => exact h.name
      | version => exact h.version
      | description => exact h.description
      | type => exact h.type
    | described field =>
      cases field with
      | label => exact h.propLabels
      | description => exact h.propDescriptions
    | defaulted => exact h.propDefaults
    | opening field =>
      cases field with
      | name => exact h.sourceName
      | description => exact h.sourceDescription
    | unstamped => exact h.unstamped

end Rule

lemma Expr.isModuleExports_iff {e : Expr} :
    e.isModuleExports = true ↔
      ∃ span span', e = .member span (.identifier span' "module") "exports" := by
  constructor
  · intro h
    unfold isModuleExports at h
    split at h
    · exact ⟨_, _, rfl⟩
    · cases h
  · rintro ⟨span, span', rfl⟩
    rfl

lemma Stmt.component?_eq_some_iff {s : Stmt} {c : Component} :
    s.component? = some c ↔ s.Exports c.object := by
  have hcomponent : s.component? = some c ↔
      ∃ value, s.exported? = some value ∧ value.Denotes c.object := by
    simp only [component?, Option.map_eq_some_iff, Option.bind_eq_bind, Option.bind_eq_some_iff,
      Expr.object?_eq_some_iff]
    constructor
    · rintro ⟨o, ⟨value, hv, ho⟩, rfl⟩
      exact ⟨value, hv, ho⟩
    · rintro ⟨value, hv, ho⟩
      exact ⟨c.object, ⟨value, hv, ho⟩, rfl⟩
  rw [hcomponent]
  constructor
  · rintro ⟨value, hv, ho⟩
    unfold exported? at hv
    split at hv
    · cases hv
      exact .default ho
    · split at hv
      · rename_i h
        cases hv
        obtain ⟨_, _, rfl⟩ := Expr.isModuleExports_iff.mp (Bool.and_eq_true_iff.mp h).1
        exact .assigned ho
      · cases hv
    · cases hv
  · intro h
    cases h with
    | default ho => exact ⟨_, rfl, ho⟩
    | assigned ho =>
      refine ⟨_, ?_, ho⟩
      simp [exported?, Expr.isModuleExports, Expr.object?_eq_some_iff.mpr ho]

lemma RuleSet.check_all_eq_nil_iff {source : String} {s : Stmt} :
    RuleSet.all.check source s = [] ↔ ∀ o, s.Exports o → o.FollowsGuidelines := by
  have hcheck : RuleSet.all.check source s = [] ↔ ∀ r ∈ Rule.all, r.check source s = [] := by
    simp [check, entries_all]
  rw [hcheck]
  constructor
  · intro h o ho
    have hc : s.component? = some ⟨o⟩ := Stmt.component?_eq_some_iff.mpr ho
    rw [← Rule.forall_satisfied_iff]
    intro r hr
    have hr' := h r hr
    rw [Rule.check, hc] at hr'
    exact (Rule.examine_eq_nil_iff source s.span ⟨o⟩ r).mp hr'
  · intro h r hr
    rw [Rule.check]
    split
    · rename_i c hc
      have hf := h c.object (Stmt.component?_eq_some_iff.mp hc)
      exact (Rule.examine_eq_nil_iff source s.span c r).mpr
        ((Rule.forall_satisfied_iff c.object).mpr hf r hr)
    · rfl

theorem findings_eq_nil_iff_guidelines (source : String) (program : Program) :
    (Run.ofProgram .all source program).findings = [] ↔
      ∀ a s, program.stmtAt? a = some s → ∀ o, s.Exports o → o.FollowsGuidelines := by
  rw [Run.findings_ofProgram, List.flatMap_eq_nil_iff]
  constructor
  · intro h a s hs
    exact RuleSet.check_all_eq_nil_iff.mp (h s (Program.mem_statements_iff.mpr ⟨a, hs⟩))
  · intro h s hs
    obtain ⟨a, ha⟩ := Program.mem_statements_iff.mp hs
    exact RuleSet.check_all_eq_nil_iff.mpr (h a s ha)

example : (Run.ofProgram .all "" [.exportDefault ⟨0, 0⟩ (.expr (.object ⟨0, 0⟩
    [.property ⟨0, 0⟩ (.word ⟨0, 0⟩ "key") (.string ⟨0, 0⟩ "rows"),
      .property ⟨0, 0⟩ (.word ⟨0, 0⟩ "\"name\"") (.string ⟨0, 0⟩ "New Row"),
      .property ⟨0, 0⟩ (.word ⟨0, 0⟩ "version") (.string ⟨0, 0⟩ "0.0.1"),
      .property ⟨0, 0⟩ (.word ⟨0, 0⟩ "description") (.string ⟨0, 0⟩ "Emit new rows"),
      .property ⟨0, 0⟩ (.word ⟨0, 0⟩ "type") (.parenthesized ⟨0, 0⟩ (.string ⟨0, 0⟩ "source")),
      .property ⟨0, 0⟩ (.word ⟨0, 0⟩ "props") (.identifier ⟨0, 0⟩ "props")]))]).findings = [] := by
  decide

end ExportLint

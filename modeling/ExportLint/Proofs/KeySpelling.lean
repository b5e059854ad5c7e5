import ExportLint.Proofs.Rewriting

/-! How keys are spelled does not matter. A key may be a word, a string or a string with quotes of
its own around the name: the same is found about a module in all spellings. Only where a message
names a prop, it names it as the key of that prop is spelled. -/

namespace ExportLint

lemma not_unquoted_inQuotes (name : String) : ¬ Unquoted (inQuotes name) := by
  simp [Unquoted, toList_inQuotes]

namespace Key

/-- The same name as a string instead of a word, or as a word instead of a string. -/
inductive Respelled : Key → Key → Prop
  | string {span : Span} {name : String} :
      Respelled (.word span name) (.expr (.string span name))
  | word {span : Span} {name : String} :
      Respelled (.expr (.string span name)) (.word span name)

/-- A string with the name in quotes, instead of the name as a word or a string. -/
inductive Requoted (name : String) : Key → Key → Prop
  | word {span : Span} :
      Requoted name (.word span name) (.expr (.string span (inQuotes name)))
  | string {span : Span} :
      Requoted name (.expr (.string span name)) (.expr (.string span (inQuotes name)))

def Reworked (k k' : Key) : Prop :=
  k.Respelled k' ∨ ∃ name, Unquoted name ∧ k.Requoted name k'

variable {k k' : Key}

lemma Respelled.same (h : k.Respelled k') : k.Same k' := by
  cases h <;> exact ⟨rfl, rfl⟩

lemma Respelled.exports (h : k.Respelled k') :
    (Part.key k).exports = [] ∧ (Part.key k').exports = [] := by
  cases h <;> simp [Part.exports_eq, Part.stmt?, Part.children]

namespace Requoted

variable {name : String}

lemma name? (h : k.Requoted name k') :
    k.name? = some name ∧ k'.name? = some (inQuotes name) := by
  cases h <;> exact ⟨rfl, rfl⟩

lemma exports (h : k.Requoted name k') :
    (Part.key k).exports = [] ∧ (Part.key k').exports = [] := by
  cases h <;> simp [Part.exports_eq, Part.stmt?, Part.children]

lemma spelled (h : k.Requoted name k') (hname : Unquoted name) {field : String}
    (hfield : Unquoted field) : k.Spelled field ↔ k'.Spelled field := by
  obtain ⟨hk, hk'⟩ := h.name?
  have hne : name ≠ inQuotes field := by
    rintro rfl
    exact not_unquoted_inQuotes field hname
  have hne' : inQuotes name ≠ field := by
    rintro rfl
    exact not_unquoted_inQuotes name hfield
  simp [Spelled, hk, hk', hne, hne', inQuotes_inj]

end Requoted

lemma Reworked.spelled (h : k.Reworked k') (field : String) (hfield : Unquoted field) :
    k.Spelled field ↔ k'.Spelled field := by
  rcases h with h | ⟨name, hname, h⟩
  · exact h.same.spelled field
  · exact h.spelled hname hfield

lemma Reworked.exports (h : k.Reworked k') :
    (Part.key k).exports = [] ∧ (Part.key k').exports = [] := by
  rcases h with h | ⟨name, -, h⟩
  · exact h.exports
  · exact h.exports

end Key

namespace Edits

def ofKeys (K : Key → Key → Prop) : Edits where
  key := K
  value := Eq
  extra _ := False
  forms := False

lemma ofKeys_harmless_of_spelled {K : Key → Key → Prop}
    (hspelled : ∀ k k', K k k' → ∀ name ∈ fieldNames, (k.Spelled name ↔ k'.Spelled name))
    (hexports : ∀ k k', K k k' → (Part.key k).exports = [] ∧ (Part.key k').exports = []) :
    (ofKeys K).Harmless where
  spelled h := hspelled _ _ h
  key_exports h := hexports _ _ h
  value_refl _ := rfl
  text h := congrArg Expr.staticString? h
  object h := congrArg Expr.object? h
  value_exports h := congrArg (fun e => (Part.expr e).exports) h
  extra_exports h := h.elim

lemma ofKeys_harmless {K : Key → Key → Prop} (hK : ∀ k k', K k k' → k.Reworked k') :
    (ofKeys K).Harmless := by
  refine ofKeys_harmless_of_spelled (fun k k' h name hname => ?_) fun k k' h => (hK k k' h).exports
  exact (hK k k' h).spelled name (unquoted_of_mem_fieldNames hname)

lemma ofKeys_truthy? (K : Key → Key → Prop) (e w : Expr) (h : (ofKeys K).value e w) :
    e.truthy? = w.truthy? :=
  congrArg Expr.truthy? h

end Edits

/-- A prop that two modules describe in the same place, with its name in quotes in the second. -/
def Program.RequotesProp (p q : Program) (span : Span) (name : String) : Prop :=
  ∃ x y prop prop', (x, y) ∈ p.exports.zip q.exports ∧ (prop, prop') ∈ x.2.props.zip y.2.props ∧
    prop.property.span = span ∧ prop.property.key.Requoted name prop'.property.key

/-- The same finding about two modules, except that the message may give the name of a prop in the
quotes that its key has got. -/
structure Finding.SameButQuotes (p q : Program) (f f' : Finding) : Prop where
  rule : f.rule = f'.rule
  severity : f.severity = f'.severity
  span : f.span = f'.span
  message : f.message = f'.message ∨ ∃ write name, f.rule.aboutProp? = some write ∧
    p.RequotesProp q f.span name ∧ f.message = write name ∧ f'.message = write (inQuotes name)

lemma Finding.Like.sameButQuotes {source : String} {p q : Program} {x y : Span × Component}
    {f f' : Finding} (h : Finding.Like (Key.Rewritten (.ofKeys Key.Reworked)) source x.2 y.2 f f')
    (hxy : (x, y) ∈ p.exports.zip q.exports) : f.SameButQuotes p q f' := by
  obtain ⟨rule, severity, complaint⟩ := f
  obtain ⟨rule', severity', complaint'⟩ := f'
  obtain ⟨rfl, rfl, hcomplaint⟩ := h
  cases hcomplaint with
  | same => exact ⟨rfl, rfl, rfl, .inl rfl⟩
  | @prop write prop prop' hwrite hprops hspan hkey =>
    refine ⟨rfl, rfl, hspan, ?_⟩
    rcases hkey with hsame | hrespelled | ⟨name, -, hquoted⟩
    · exact .inl (congrArg write (PropEntry.displayName_of_same hsame source))
    · exact .inl (congrArg write (PropEntry.displayName_of_same hrespelled.same source))
    · obtain ⟨hname, hname'⟩ := hquoted.name?
      refine .inr ⟨write, name, hwrite, ⟨x, y, prop, prop', hxy, hprops, rfl, hquoted⟩, ?_, ?_⟩
      · simp [Finding.message, PropEntry.displayName, hname]
      · simp [Finding.message, PropEntry.displayName, hname']

theorem key_spelling_changes_no_finding (rules : RuleSet) (source : String) (p q : Program) :
    (p.Rewritten (.ofKeys Key.Respelled) q →
      Run.ofProgram rules source p = Run.ofProgram rules source q) ∧
    (p.Rewritten (.ofKeys Key.Reworked) q →
      List.Forall₂ (Finding.SameButQuotes p q) (Run.ofProgram rules source p).findings
        (Run.ofProgram rules source q).findings) := by
  constructor
  · intro h
    exact h.ofProgram_eq (Edits.ofKeys_harmless fun _ _ => .inl) (fun _ _ hk => hk.same)
      (Edits.ofKeys_truthy? _) rules source
  · intro h
    have hE := Edits.ofKeys_harmless (K := Key.Reworked) fun _ _ hk => hk
    have hexports := forall₂_mem_zip (h.exports hE)
    rw [Run.findings_eq_exports, Run.findings_eq_exports]
    refine List.rel_flatMap hexports ?_
    rintro x y ⟨hlike, hxy⟩
    refine (RuleSet.examine_like hE.keys hE.values ?_ source hlike).imp ?_
    · exact fun _ _ _ _ _ => Expr.Rewritten.truthy? (Edits.ofKeys_truthy? _)
    · exact fun _ _ hf => hf.sameButQuotes hxy

def unlabelled (props prop type : Key) : Program :=
  [.exportDefault ⟨0, 45⟩ (.expr (.object ⟨15, 45⟩
    [.property ⟨17, 43⟩ props (.object ⟨24, 43⟩
      [.property ⟨26, 41⟩ prop (.object ⟨29, 41⟩
        [.property ⟨31, 39⟩ type (.string ⟨37, 39⟩ "")])])]))]

lemma unlabelled_rewritten {K : Key → Key → Prop} {props props' prop prop' type type' : Key}
    (hprops : K props props') (hprop : K prop prop') (htype : K type type') :
    (unlabelled props prop type).Rewritten (.ofKeys K) (unlabelled props' prop' type') := by
  refine .cons (.keep rfl (.cons (.keep rfl (.cons (.keep rfl ?_) .nil)) .nil)) .nil
  refine .cons (.key hprops) (.cons (.keep rfl (.cons (.keep rfl ?_) .nil)) .nil)
  refine .cons (.key hprop) (.cons (.keep rfl (.cons (.keep rfl ?_) .nil)) .nil)
  exact .cons (.key htype) (.cons (.refl _) .nil)

theorem unlabelled_key_spelling :
    Run.ofProgram .all "" (unlabelled (.word ⟨17, 22⟩ "props") (.expr (.string ⟨26, 27⟩ "p"))
        (.word ⟨31, 35⟩ "type")) =
      Run.ofProgram .all "" (unlabelled (.expr (.string ⟨17, 22⟩ "props")) (.word ⟨26, 27⟩ "p")
        (.expr (.string ⟨31, 35⟩ "type"))) ∧
    List.Forall₂ (Finding.SameButQuotes
        (unlabelled (.word ⟨17, 22⟩ "props") (.word ⟨26, 27⟩ "p") (.word ⟨31, 35⟩ "type"))
        (unlabelled (.expr (.string ⟨17, 22⟩ "\"props\"")) (.expr (.string ⟨26, 27⟩ "\"p\""))
          (.expr (.string ⟨31, 35⟩ "type"))))
      (Run.ofProgram .all "" (unlabelled (.word ⟨17, 22⟩ "props") (.word ⟨26, 27⟩ "p")
        (.word ⟨31, 35⟩ "type"))).findings
      (Run.ofProgram .all "" (unlabelled (.expr (.string ⟨17, 22⟩ "\"props\""))
        (.expr (.string ⟨26, 27⟩ "\"p\"")) (.expr (.string ⟨31, 35⟩ "type")))).findings := by
  refine ⟨(key_spelling_changes_no_finding .all "" _ _).1 (unlabelled_rewritten .string .word
    .string), (key_spelling_changes_no_finding .all "" _ _).2 (unlabelled_rewritten ?_ ?_ ?_)⟩
  · exact .inr ⟨"props", by decide, .word⟩
  · exact .inr ⟨"p", by decide, .word⟩
  · exact .inl .string

end ExportLint

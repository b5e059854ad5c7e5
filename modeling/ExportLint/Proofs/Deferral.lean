import ExportLint.Proofs.InlineProps
import ExportLint.Proofs.Lookalikes
import ExportLint.Proofs.Registration
import Mathlib.Algebra.Order.BigOperators.Group.List
import Mathlib.Data.List.Perm.Subperm
import Mathlib.Tactic.Linarith

/-! A rule about the text of a metadata field has nothing to say where the field is missing: that is
left to the rule that requires the field. So nothing is reported twice, and what is found about one
export is bounded by the number of its props. -/

namespace ExportLint

def SourceText.metadata : SourceText → Metadata
  | name => .name
  | description => .description

/-- The first rule looks at a field that the second one requires. -/
inductive Rule.DefersTo : Rule → Rule → Prop
  | text (field : SourceText) : DefersTo (opening field) (required field.metadata)
  | type (field : SourceText) : DefersTo (opening field) (required .type)
  | version : DefersTo unstamped (required .version)

lemma ObjectLiteral.Reads.has {o : ObjectLiteral} {name text : String} (h : o.Reads name text) :
    o.Has name := by
  obtain ⟨p, hp, -⟩ := reads_iff.mp h
  exact contains_iff.mp (Option.isSome_of_eq_some hp)

namespace Rule

lemma mem_all (r : Rule) : r ∈ all := by
  cases r with
  | required field => cases field <;> decide
  | described field => cases field <;> decide
  | defaulted => decide
  | opening field => cases field <;> decide
  | unstamped => decide

lemma id_injective : Function.Injective id := fun r r' h =>
  List.inj_on_of_nodup_map RuleSet.ruleIds_nodup r.mem_all r'.mem_all h

section Satisfied

variable {o : ObjectLiteral}

lemma has_of_opening {field : SourceText} (h : ¬ Satisfied o (opening field)) :
    o.Has "type" ∧ o.Has field.metadata.word := by
  simp only [Satisfied, not_forall] at h
  obtain ⟨hsource, text, htext, -⟩ := h
  refine ⟨hsource.has, ?_⟩
  cases field <;> exact htext.has

lemma has_of_unstamped (h : ¬ Satisfied o unstamped) : o.Has "version" := by
  simp only [Satisfied, not_forall] at h
  obtain ⟨text, htext, -⟩ := h
  exact htext.has

lemma DefersTo.satisfied {r r' : Rule} (h : r.DefersTo r') (hr : ¬ Satisfied o r) :
    Satisfied o r' := by
  cases h with
  | text field => exact (has_of_opening hr).2
  | type field => exact (has_of_opening hr).1
  | version => exact has_of_unstamped hr

end Satisfied

/-- A rule and the one it defers to count once together, so five are left beside those about
props. -/
lemma sum_all_le {n : Rule → ℕ} {k : ℕ} (hrequired : ∀ field, n (required field) ≤ 1)
    (hdefers : ∀ r r', DefersTo r r' → n r + n r' ≤ 1)
    (hprops : ∀ r, r.aboutProp?.isSome → n r ≤ k) : (all.map n).sum ≤ 5 + 3 * k := by
  have hkey := hrequired .key
  have htype := hrequired .type
  have hname := hdefers _ _ (.text .name)
  have hdescription := hdefers _ _ (.text .description)
  have hversion := hdefers _ _ .version
  have hlabels := hprops (described .label) rfl
  have hdescriptions := hprops (described .description) rfl
  have hdefaults := hprops defaulted rfl
  simp only [SourceText.metadata] at hname hdescription
  simp only [all, List.map_cons, List.map_nil, List.sum_cons, List.sum_nil]
  linarith

section Lengths

variable (source : String) (span : Span) (c : Component)

lemma length_examine_le_props {r : Rule} (h : r.aboutProp?.isSome) :
    (r.examine source span c).length ≤ c.props.length := by
  obtain ⟨write, hwrite⟩ := Option.isSome_iff_exists.mp h
  obtain ⟨blames, hblames⟩ := exists_blames hwrite
  rw [hblames, List.length_map]
  exact List.length_filter_le _ _

lemma length_examine_le_one {r : Rule} (h : r.aboutProp? = none) :
    (r.examine source span c).length ≤ 1 := by
  cases r with
  | required field =>
    rw [Rule.examine]
    cases c.contains field.word <;> simp
  | opening field =>
    rw [Rule.examine]
    cases c.sourceProperty? field.word with
    | none => exact Nat.zero_le 1
    | some p =>
      cases ht : p.value.staticString? with
      | none => simp [ht]
      | some text => cases ho : opens (field.opening ++ " ") text <;> simp [ht, ho]
  | unstamped =>
    rw [Rule.examine]
    cases c.find? "version" with
    | none => exact Nat.zero_le 1
    | some p =>
      cases ht : p.value.staticString? with
      | none => simp [ht]
      | some text => cases ho : occurs placeholder.toList text.toList <;> simp [ht, ho]
  | described field => cases h
  | defaulted => cases h

lemma DefersTo.examine {r r' : Rule} (h : r.DefersTo r') :
    r.examine source span c = [] ∨ r'.examine source span c = [] := by
  rw [examine_eq_nil_iff, examine_eq_nil_iff]
  by_cases hr : Satisfied c.object r
  · exact .inl hr
  · exact .inr (h.satisfied hr)

lemma DefersTo.length_examine {r r' : Rule} (h : r.DefersTo r') :
    (r.examine source span c).length + (r'.examine source span c).length ≤ 1 := by
  have hr := length_examine_le_one source span c (r := r) (by cases h <;> rfl)
  have hr' := length_examine_le_one source span c (r := r') (by cases h <;> rfl)
  rcases h.examine source span c with hnil | hnil
  · rwa [hnil, List.length_nil, Nat.zero_add]
  · rwa [hnil, List.length_nil, Nat.add_zero]

lemma sum_length_examine :
    (all.map fun r => (r.examine source span c).length).sum ≤ 5 + 3 * c.props.length := by
  apply sum_all_le
  · exact fun field => length_examine_le_one source span c rfl
  · exact fun r r' h => h.length_examine source span c
  · exact fun r h => length_examine_le_props source span c h

end Lengths

end Rule

namespace RuleSet

variable {rules : RuleSet} {source : String} {s : Stmt}

def Reports (rules : RuleSet) (source : String) (s : Stmt) (id : String) : Prop :=
  ∃ f ∈ rules.check source s, f.rule.id = id

instance (id : String) : Decidable (rules.Reports source s id) :=
  inferInstanceAs (Decidable (∃ f ∈ rules.check source s, f.rule.id = id))

lemma check_ne_nil_of_reports {r : Rule} (h : rules.Reports source s r.id) :
    r.check source s ≠ [] := by
  obtain ⟨f, hf, hid⟩ := h
  obtain ⟨entry, -, hf⟩ := List.mem_flatMap.mp hf
  obtain ⟨complaint, hcomplaint, rfl⟩ := List.mem_map.mp hf
  obtain rfl := Rule.id_injective hid
  exact List.ne_nil_of_mem hcomplaint

lemma not_reports_of_defersTo {c : Component} (hc : s.component? = some c) {r r' : Rule}
    (h : r.DefersTo r') (hr : rules.Reports source s r.id) : ¬ rules.Reports source s r'.id := by
  intro hr'
  have hne := check_ne_nil_of_reports hr
  have hne' := check_ne_nil_of_reports hr'
  rw [Rule.check, hc] at hne hne'
  rcases h.examine source s.span c with hnil | hnil
  · exact hne hnil
  · exact hne' hnil

lemma length_check_le (h : rules.ids.Nodup) (source : String) (s : Stmt) :
    (rules.check source s).length ≤ (Rule.all.map fun r => (r.check source s).length).sum := by
  have hnodup : (rules.entries.map Prod.fst).Nodup := by
    apply List.Nodup.of_map Rule.id
    rwa [List.map_map]
  obtain ⟨l, hperm, hsub⟩ := List.subperm_of_subset hnodup fun r _ => r.mem_all
  calc (rules.check source s).length
      = ((rules.entries.map Prod.fst).map fun r => (r.check source s).length).sum := by
        simp [check, List.length_flatMap, Function.comp_def]
    _ = (l.map fun r => (r.check source s).length).sum := ((hperm.map _).sum_eq).symm
    _ ≤ (Rule.all.map fun r => (r.check source s).length).sum :=
        (hsub.map _).sum_le_sum fun _ _ => Nat.zero_le _

end RuleSet

theorem nothing_reported_twice {rules : RuleSet} (hids : rules.ids.Nodup) (source : String)
    {s : Stmt} {o : ObjectLiteral} (h : s.Exports o) :
    let reports := rules.Reports source s
    (reports "source-name" →
      ¬ reports "required-properties-name" ∧ ¬ reports "required-properties-type") ∧
    (reports "source-description" →
      ¬ reports "required-properties-description" ∧ ¬ reports "required-properties-type") ∧
    (reports "no-ts-version" → ¬ reports "required-properties-version") ∧
    (∃! ps, o.InlineProps ps) ∧
    ∀ ps, o.InlineProps ps → (rules.check source s).length ≤ 5 + 3 * ps.length := by
  have hc : s.component? = some ⟨o⟩ := Stmt.component?_eq_some_iff.mpr h
  intro reports
  refine ⟨fun hr => ⟨?_, ?_⟩, fun hr => ⟨?_, ?_⟩, fun hr => ?_, ?_, ?_⟩
  · exact RuleSet.not_reports_of_defersTo hc (.text .name) hr
  · exact RuleSet.not_reports_of_defersTo hc (.type .name) hr
  · exact RuleSet.not_reports_of_defersTo hc (.text .description) hr
  · exact RuleSet.not_reports_of_defersTo hc (.type .description) hr
  · exact RuleSet.not_reports_of_defersTo hc .version hr
  · exact o.existsUnique_inlineProps
  · intro ps hps
    obtain rfl := (Component.inlineProps_iff (c := ⟨o⟩)).mp hps
    have hall := Rule.sum_length_examine source s.span ⟨o⟩
    have hle := RuleSet.length_check_le hids source s
    simp only [Rule.check, hc] at hle
    exact hle.trans hall

-- five missing fields and a prop that lacks all it could lack: the bound is reached
example : (RuleSet.all.check "" (.exportDefault ⟨0, 0⟩ (.expr (.object ⟨0, 0⟩
    [.property ⟨0, 0⟩ (.word ⟨0, 0⟩ "props") (.object ⟨0, 0⟩
      [.property ⟨0, 0⟩ (.word ⟨0, 0⟩ "a") (.object ⟨0, 0⟩
        [.property ⟨0, 0⟩ (.word ⟨0, 0⟩ "optional") (.boolean ⟨0, 0⟩ true)])])])))).length =
      5 + 3 * 1 := by
  rfl

def hastySource : Stmt :=
  .exportDefault ⟨0, 99⟩ (.expr (.object ⟨15, 99⟩
    [.property ⟨17, 31⟩ (.word ⟨17, 21⟩ "type") (.string ⟨23, 31⟩ "source"),
      .property ⟨33, 44⟩ (.expr (.string ⟨33, 37⟩ "\"name\"")) (.string ⟨39, 44⟩ "Row"),
      .property ⟨46, 57⟩ (.word ⟨46, 50⟩ "description") (.string ⟨52, 57⟩ "Rows"),
      .property ⟨59, 73⟩ (.word ⟨59, 66⟩ "version") (.string ⟨68, 73⟩ "\x7b\x7bts\x7d\x7d"),
      .property ⟨75, 97⟩ (.word ⟨75, 80⟩ "props") (.object ⟨82, 97⟩
        [.property ⟨84, 95⟩ (.word ⟨84, 85⟩ "a") (.object ⟨87, 95⟩
          [.property ⟨88, 94⟩ (.word ⟨88, 90⟩ "optional") (.boolean ⟨92, 94⟩ true)])])]))

theorem hastySource_reported_once :
    let reports := RuleSet.all.Reports "" hastySource
    (reports "source-name" ∧
      ¬ reports "required-properties-name" ∧ ¬ reports "required-properties-type") ∧
    (reports "source-description" ∧
      ¬ reports "required-properties-description" ∧ ¬ reports "required-properties-type") ∧
    (reports "no-ts-version" ∧ ¬ reports "required-properties-version") ∧
    (RuleSet.all.check "" hastySource).length ≤ 5 + 3 * 1 := by
  intro reports
  obtain ⟨hname, hdescription, hversion, -, hbound⟩ :=
    nothing_reported_twice RuleSet.nodup_ids_all "" (s := hastySource) (.default .object)
  have hreports : reports "source-name" ∧ reports "source-description" ∧
      reports "no-ts-version" := by decide
  exact ⟨⟨hreports.1, hname hreports.1⟩, ⟨hreports.2.1, hdescription hreports.2.1⟩,
    ⟨hreports.2.2, hversion hreports.2.2⟩, hbound _ (Component.inlineProps_iff.mpr rfl)⟩

end ExportLint

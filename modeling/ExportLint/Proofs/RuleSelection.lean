import ExportLint.Proofs.RuleNames
import ExportLint.RuleSet

/-! Which rule set settings select, and when they select none. -/

namespace ExportLint

namespace Settings

def Unknown (s : Settings) (id : String) : Prop :=
  (∃ name ∈ s.names, StandsFor name id) ∧ ∀ rule ∈ Rule.all, rule.id ≠ id

/-- The severity that a rule is to have: none if it is off, an error if nothing is said of it. -/
def severityOf? (s : Settings) (rule : Rule) : Option Severity :=
  match s.levelOf? rule.id with
  | some .off => none
  | some .warn => some .warning
  | some .error => some .error
  | none => some .error

def selection (s : Settings) : List (Rule × Severity) :=
  Rule.all.filterMap fun rule => (s.severityOf? rule).map fun severity => (rule, severity)

lemma severityOf?_eq (s : Settings) (rule : Rule) :
    s.severityOf? rule = ((s.levelOf? rule.id).getD .error).severity? := by
  unfold severityOf?
  cases s.levelOf? rule.id with
  | none => rfl
  | some level => cases level <;> rfl

lemma selection_of_perm {s t : Settings} (h : t.levels.Perm s.levels) :
    t.selection = s.selection := by
  simp only [selection, severityOf?, levelOf?_of_perm h]

lemma unknown_of_perm {s t : Settings} (h : t.levels.Perm s.levels) {id : String} :
    t.Unknown id ↔ s.Unknown id := by
  simp only [Unknown, mem_names_of_perm h]

end Settings

namespace RuleSet

open Settings

def selected (levels : List (String × Level)) (rules : List Rule) : List (Rule × Severity) :=
  rules.filterMap fun rule => (severityUnder levels rule).map fun severity => (rule, severity)

section Collect

variable {taken rest : List (String × Level)} {id : String}

lemma collect_cons_new (level : Level) (h : taken.lookup id = none) :
    collect taken ((id, level) :: rest) = collect (taken ++ [(id, level)]) rest := by
  rw [collect, h]
  rfl

lemma collect_cons_taken {other : Level} (level : Level) (h : taken.lookup id = some other) :
    collect taken ((id, level) :: rest) = .error (.duplicate id) := by
  rw [collect, h]
  rfl

lemma collect_eq_error {e : NamingError} (h : collect taken rest = .error e) :
    ∃ id, e = .duplicate id ∧ [id, id].Sublist ((taken ++ rest).map Prod.fst) := by
  induction rest generalizing taken with
  | nil => cases h
  | cons entry rest ih =>
    obtain ⟨id, level⟩ := entry
    cases hl : taken.lookup id with
    | none =>
      rw [collect_cons_new level hl] at h
      simpa using ih h
    | some other =>
      rw [collect_cons_taken level hl] at h
      cases h
      obtain ⟨before, after, rfl, -⟩ := List.lookup_eq_some_iff.mp hl
      have htaken : [id].Sublist ((before ++ (id, other) :: after).map Prod.fst) := by simp
      have hrest : [id].Sublist (((id, level) :: rest).map Prod.fst) := by simp
      refine ⟨id, rfl, ?_⟩
      rw [List.map_append]
      exact htaken.append hrest

lemma collect_eq_ok {levels : List (String × Level)} (h : collect taken rest = .ok levels)
    (hd : (taken.map Prod.fst).Nodup) :
    ((taken ++ rest).map Prod.fst).Nodup ∧ levels = taken ++ rest := by
  induction rest generalizing taken with
  | nil =>
    cases h
    simpa using hd
  | cons entry rest ih =>
    obtain ⟨id, level⟩ := entry
    cases hl : taken.lookup id with
    | none =>
      rw [collect_cons_new level hl] at h
      simpa using ih h (nodup_append_new level hd hl)
    | some other =>
      rw [collect_cons_taken level hl] at h
      cases h

end Collect

lemma clash_of_collect_eq_error {s : Settings} {e : NamingError}
    (h : collect [] s.byId = .error e) :
    ∃ id, e = .duplicate id ∧ s.Clash id := by
  obtain ⟨id, rfl, hid⟩ := collect_eq_error h
  rw [List.nil_append, map_fst_byId, List.sublist_map_iff] at hid
  obtain ⟨pair, hpair, hmap⟩ := hid
  obtain ⟨n, m, rfl⟩ : ∃ n m, pair = [n, m] := by
    rw [← List.length_eq_two]
    simpa using (congrArg List.length hmap).symm
  have hne : n ≠ m := by simpa using s.names_nodup.sublist hpair
  obtain ⟨hn, hm⟩ : id = ruleId n ∧ id = ruleId m := by simpa using hmap
  exact ⟨id, rfl, n, hpair.subset (by simp), m, hpair.subset (by simp), hne,
    ruleId_eq_iff.mp hn.symm, ruleId_eq_iff.mp hm.symm⟩

lemma eraseP_eq_filter {levels : List (String × Level)} (h : (levels.map Prod.fst).Nodup)
    (id : String) :
    levels.eraseP (·.1 == id) = levels.filter fun entry => decide (entry.1 ≠ id) := by
  induction levels with
  | nil => rfl
  | cons entry levels ih =>
    rw [List.map_cons, List.nodup_cons] at h
    by_cases hid : entry.1 = id
    · have hrest : (levels.filter fun entry => decide (entry.1 ≠ id)) = levels := by
        rw [List.filter_eq_self]
        intro other ho
        have hne : other.1 ≠ entry.1 := fun he => h.1 (he ▸ List.mem_map_of_mem ho)
        simpa [← hid] using hne
      rw [List.eraseP_cons_of_pos (by simpa using hid),
        List.filter_cons_of_neg (by simpa using hid), hrest]
    · rw [List.eraseP_cons_of_neg (by simpa using hid),
        List.filter_cons_of_pos (by simpa using hid), ih h.2]

lemma lookup_filter {levels : List (String × Level)} {p : String → Bool} {id : String}
    (h : p id = true) : (levels.filter fun entry => p entry.1).lookup id = levels.lookup id := by
  induction levels with
  | nil => rfl
  | cons entry levels ih =>
    obtain ⟨other, level⟩ := entry
    by_cases hid : id = other
    · subst hid
      simp [h]
    · have hb : (id == other) = false := beq_eq_false_iff_ne.mpr hid
      cases hp : p other <;> simp [hp, List.lookup_cons, hb, ih]

lemma ids_selected_subset (levels : List (String × Level)) (rules : List Rule) {id : String}
    (h : id ∈ (selected levels rules).map (·.1.id)) : id ∈ rules.map Rule.id := by
  obtain ⟨⟨rule, severity⟩, hm, rfl⟩ := List.mem_map.mp h
  obtain ⟨other, ho, hs⟩ := List.mem_filterMap.mp hm
  obtain ⟨_, -, he⟩ := Option.map_eq_some_iff.mp hs
  obtain ⟨rfl, -⟩ := Prod.mk.inj he
  exact List.mem_map_of_mem ho

lemma insert_of_new {s : RuleSet} {rule : Rule} (h : rule.id ∉ s.ids) (severity : Severity) :
    s.insert rule severity = ⟨s.entries ++ [(rule, severity)]⟩ := by
  rw [insert, if_neg h]

/-- What a draft is when it has met the rules in `done`. -/
structure Draft.Reaches (d : Draft) (levels : List (String × Level)) (done : List Rule) : Prop where
  rules : d.rules.entries = selected levels done
  unused : d.unused = levels.filter fun entry => decide (entry.1 ∉ done.map Rule.id)

section Draft

variable {d : Draft} {levels : List (String × Level)} {done : List Rule}

lemma Draft.Reaches.add (h : d.Reaches levels done) (hl : (levels.map Prod.fst).Nodup) {rule : Rule}
    (hr : rule.id ∉ done.map Rule.id) : (d.add rule).Reaches levels (done ++ [rule]) := by
  have hsev : severityUnder d.unused rule = severityUnder levels rule := by
    rw [severityUnder, severityUnder, h.unused,
      lookup_filter (p := fun id => decide (id ∉ done.map Rule.id)) (by simpa using hr)]
  have hnew : rule.id ∉ d.rules.ids := by
    rw [ids, h.rules]
    exact fun hm => hr (ids_selected_subset levels done hm)
  constructor
  · cases hs : severityUnder levels rule with
    | none => simp [Draft.add, hsev, hs, h.rules, selected, List.filterMap_append]
    | some severity =>
      simp [Draft.add, hsev, hs, insert_of_new hnew, h.rules, selected, List.filterMap_append]
  · have hd : (d.unused.map Prod.fst).Nodup := by
      rw [h.unused]
      exact hl.sublist (List.filter_sublist.map _)
    rw [Draft.add, eraseP_eq_filter hd, h.unused, List.filter_filter]
    apply List.filter_congr
    intro entry _
    simp [and_comm]

lemma Draft.Reaches.foldl_add (h : d.Reaches levels done) (hl : (levels.map Prod.fst).Nodup)
    {rest : List Rule} (hr : ((done ++ rest).map Rule.id).Nodup) :
    (rest.foldl Draft.add d).Reaches levels (done ++ rest) := by
  induction rest generalizing d done with
  | nil => simpa using h
  | cons rule rest ih =>
    have hnew : rule.id ∉ done.map Rule.id := by
      rw [List.map_append, List.nodup_append] at hr
      exact fun hm => hr.2.2 rule.id hm rule.id (by simp) rfl
    rw [List.foldl_cons, List.append_cons]
    exact ih (h.add hl hnew) (by rwa [← List.append_cons])

end Draft

lemma ruleIds_nodup : (Rule.all.map Rule.id).Nodup := by
  decide

lemma not_plugin_ruleId : ∀ rule ∈ Rule.all, ¬ pluginName.toList <+: rule.id.toList := by
  decide

lemma selected_byId {s : Settings} (h : ∀ id, ¬ s.Clash id) :
    selected s.byId Rule.all = s.selection := by
  apply List.filterMap_congr
  intro rule hr
  rw [severityUnder, lookup_byId h (not_plugin_ruleId rule hr), severityOf?_eq]

def draft (s : Settings) : Draft := Rule.all.foldl Draft.add ⟨empty, s.byId⟩

lemma draft_reaches {s : Settings} (h : ∀ id, ¬ s.Clash id) :
    (draft s).Reaches s.byId Rule.all := by
  have hempty : Draft.Reaches ⟨empty, s.byId⟩ s.byId [] := ⟨rfl, by simp⟩
  exact hempty.foldl_add ((nodup_byId_iff s).mpr h) ruleIds_nodup

lemma unknown_iff {s : Settings} (h : ∀ id, ¬ s.Clash id) {id : String} :
    s.Unknown id ↔ id ∈ (draft s).unused.map Prod.fst := by
  have hids : (∃ name ∈ s.names, StandsFor name id) ↔ id ∈ s.byId.map Prod.fst := by
    simp only [map_fst_byId, List.mem_map, ruleId_eq_iff]
  have hrules : (∀ rule ∈ Rule.all, rule.id ≠ id) ↔ id ∉ Rule.all.map Rule.id := by simp
  rw [Unknown, hids, hrules, (draft_reaches h).unused]
  simp only [List.mem_map, List.mem_filter, decide_eq_true_eq]
  constructor
  · rintro ⟨⟨entry, hm, rfl⟩, hr⟩
    exact ⟨entry, ⟨hm, hr⟩, rfl⟩
  · rintro ⟨entry, ⟨hm, hr⟩, rfl⟩
    exact ⟨⟨entry, hm, rfl⟩, hr⟩

lemma ofSettings_cases (s : Settings) :
    (∃ id, s.Clash id ∧ ofSettings s = .error (.duplicate id)) ∨
    ((∀ id, ¬ s.Clash id) ∧ ∃ id, s.Unknown id ∧ ofSettings s = .error (.unknown id)) ∨
    ((∀ id, ¬ s.Clash id) ∧ (∀ id, ¬ s.Unknown id) ∧ ofSettings s = .ok ⟨s.selection⟩) := by
  cases hc : collect [] s.byId with
  | error e =>
    obtain ⟨id, rfl, hid⟩ := clash_of_collect_eq_error hc
    exact .inl ⟨id, hid, by rw [ofSettings, hc]⟩
  | ok levels =>
    obtain ⟨hd, rfl⟩ := collect_eq_ok hc List.nodup_nil
    have hclash : ∀ id, ¬ s.Clash id := (nodup_byId_iff s).mp hd
    right
    cases hu : (draft s).unused with
    | cons entry rest =>
      refine .inl ⟨hclash, entry.1, (unknown_iff hclash).mpr (by simp [hu]), ?_⟩
      rw [draft] at hu
      simp [ofSettings, hc, hu]
    | nil =>
      refine .inr ⟨hclash, fun id hid => ?_, ?_⟩
      · simpa [hu] using (unknown_iff hclash).mp hid
      · have hrules := (draft_reaches hclash).rules
        rw [draft] at hu hrules
        rw [← selected_byId hclash, ← hrules]
        simp [ofSettings, hc, hu]

-- the three cases shut each other out, so each outcome is told by its condition

lemma clash_of_duplicate_error {s : Settings} {id : String}
    (h : ofSettings s = .error (.duplicate id)) : s.Clash id := by
  rcases ofSettings_cases s with ⟨id', hid, h'⟩ | ⟨-, id', -, h'⟩ | ⟨-, -, h'⟩ <;> rw [h] at h'
  · cases h'
    exact hid
  · cases h'
  · cases h'

lemma unknown_of_unknown_error {s : Settings} {id : String}
    (h : ofSettings s = .error (.unknown id)) : (∀ id, ¬ s.Clash id) ∧ s.Unknown id := by
  rcases ofSettings_cases s with ⟨id', -, h'⟩ | ⟨hc, id', hid, h'⟩ | ⟨-, -, h'⟩ <;> rw [h] at h'
  · cases h'
  · cases h'
    exact ⟨hc, hid⟩
  · cases h'

lemma duplicate_error_iff (s : Settings) :
    (∃ id, ofSettings s = .error (.duplicate id)) ↔ ∃ id, s.Clash id := by
  constructor
  · rintro ⟨id, h⟩
    exact ⟨id, clash_of_duplicate_error h⟩
  · rintro ⟨id, hid⟩
    rcases ofSettings_cases s with ⟨id', -, h⟩ | ⟨hc, -⟩ | ⟨hc, -⟩
    · exact ⟨id', h⟩
    · exact (hc id hid).elim
    · exact (hc id hid).elim

lemma unknown_error_iff (s : Settings) :
    (∃ id, ofSettings s = .error (.unknown id)) ↔
      (¬ ∃ id, s.Clash id) ∧ ∃ id, s.Unknown id := by
  rw [not_exists]
  constructor
  · rintro ⟨id, h⟩
    obtain ⟨hc, hid⟩ := unknown_of_unknown_error h
    exact ⟨hc, id, hid⟩
  · rintro ⟨hc, id, hid⟩
    rcases ofSettings_cases s with ⟨id', hid', -⟩ | ⟨-, id', -, h⟩ | ⟨-, hu, -⟩
    · exact (hc id' hid').elim
    · exact ⟨id', h⟩
    · exact (hu id hid).elim

lemma ok_iff (s : Settings) (rules : RuleSet) :
    ofSettings s = .ok rules ↔
      (¬ ∃ id, s.Clash id) ∧ (¬ ∃ id, s.Unknown id) ∧ rules.entries = s.selection := by
  rw [not_exists, not_exists]
  rcases ofSettings_cases s with ⟨id, hid, h⟩ | ⟨-, id, hid, h⟩ | ⟨hc, hu, h⟩ <;> rw [h]
  · constructor
    · intro he
      cases he
    · rintro ⟨hc, -⟩
      exact (hc id hid).elim
  · constructor
    · intro he
      cases he
    · rintro ⟨-, hu, -⟩
      exact (hu id hid).elim
  · cases rules with
    | mk entries =>
      constructor
      · intro he
        cases he
        exact ⟨hc, hu, rfl⟩
      · rintro ⟨-, -, rfl⟩
        rfl

theorem ofSettings_exact (s : Settings) :
    ((∃ id, ofSettings s = .error (.duplicate id)) ↔ ∃ id, s.Clash id) ∧
    ((∃ id, s.Clash id) ↔
      ∃ id, ¬ pluginName.toList <+: id.toList ∧ id ∈ s.names ∧ pluginName ++ id ∈ s.names) ∧
    ((∃ id, ofSettings s = .error (.unknown id)) ↔
      (¬ ∃ id, s.Clash id) ∧ ∃ id, s.Unknown id) ∧
    (∀ rules, ofSettings s = .ok rules ↔
      (¬ ∃ id, s.Clash id) ∧ (¬ ∃ id, s.Unknown id) ∧ rules.entries = s.selection) ∧
    (∀ id, ofSettings s = .error (.duplicate id) → s.Clash id) ∧
    (∀ id, ofSettings s = .error (.unknown id) → s.Unknown id) ∧
    ∀ t : Settings, t.levels.Perm s.levels →
      ((∃ id, ofSettings t = .error (.duplicate id)) ↔
        ∃ id, ofSettings s = .error (.duplicate id)) ∧
      ((∃ id, ofSettings t = .error (.unknown id)) ↔
        ∃ id, ofSettings s = .error (.unknown id)) ∧
      ∀ rules, ofSettings t = .ok rules ↔ ofSettings s = .ok rules := by
  refine ⟨duplicate_error_iff s, by simp only [clash_iff], unknown_error_iff s, ok_iff s,
    fun id h => clash_of_duplicate_error h, fun id h => (unknown_of_unknown_error h).2, ?_⟩
  intro t h
  refine ⟨?_, ?_, ?_⟩
  · simp only [duplicate_error_iff, clash_of_perm h]
  · simp only [unknown_error_iff, clash_of_perm h, unknown_of_perm h]
  · intro rules
    simp only [ok_iff, clash_of_perm h, unknown_of_perm h, selection_of_perm h]

def clashing : Settings :=
  ⟨[("no-such-rule", .warn), ("source-name", .off), ("pipedream/source-name", .error)], by decide⟩

def clashingReversed : Settings :=
  ⟨[("pipedream/source-name", .error), ("source-name", .off), ("no-such-rule", .warn)], by decide⟩

def narrowed : Settings :=
  ⟨[("pipedream/source-name", .off), ("no-ts-version", .warn)], by decide⟩

def narrowedRules : RuleSet :=
  ⟨[(.required .key, .error), (.required .name, .error), (.required .version, .error),
    (.required .description, .error), (.required .type, .error), (.described .label, .error),
    (.described .description, .error), (.defaulted, .error), (.opening .description, .error),
    (.unstamped, .warning)]⟩

theorem ofSettings_clashing :
    clashingReversed.levels.Perm clashing.levels ∧
    ofSettings clashing = .error (.duplicate "source-name") ∧ clashing.Clash "source-name" ∧
    (∃ id, ofSettings clashingReversed = .error (.duplicate id)) ∧
    ofSettings narrowed = .ok narrowedRules ∧ (¬ ∃ id, narrowed.Clash id) ∧
    (¬ ∃ id, narrowed.Unknown id) ∧ narrowedRules.entries = narrowed.selection ∧
    ∀ t : Settings, t.levels.Perm narrowed.levels → ofSettings t = .ok narrowedRules := by
  have hperm : clashingReversed.levels.Perm clashing.levels := by decide
  have h : ofSettings clashing = .error (.duplicate "source-name") := by decide
  have hok : ofSettings narrowed = .ok narrowedRules := by decide
  obtain ⟨-, -, -, -, hclash, -, horder⟩ := ofSettings_exact clashing
  obtain ⟨-, -, -, haccepted, -, -, hsame⟩ := ofSettings_exact narrowed
  obtain ⟨hno, hall, hentries⟩ := (haccepted narrowedRules).mp hok
  exact ⟨hperm, h, hclash "source-name" h, (horder clashingReversed hperm).1.mpr ⟨_, h⟩, hok, hno,
    hall, hentries, fun t ht => ((hsame t ht).2.2 narrowedRules).mpr hok⟩

end RuleSet

end ExportLint

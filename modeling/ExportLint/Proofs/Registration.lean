import ExportLint.Proofs.RuleSelection

/-! Rule sets are made step by step. Whatever the steps were, every rule is there once and is found
under its own id. Rules that are inserted keep the places of those that were there and stand behind
them in the order in which they first came. -/

namespace ExportLint.RuleSet

inductive Step where
  | clear
  | fill
  | configure (settings : Settings)
  | insert (rule : Rule) (severity : Severity)

/-- One step. Settings that select no rule set leave the rules as they are. -/
def Step.apply (s : RuleSet) : Step → RuleSet
  | clear => empty
  | fill => all
  | configure settings => (ofSettings settings).toOption.getD s
  | insert rule severity => s.insert rule severity

def after (steps : List Step) : RuleSet := steps.foldl Step.apply empty

def insertAll (s : RuleSet) (added : List (Rule × Severity)) : RuleSet :=
  added.foldl (fun s entry => s.insert entry.1 entry.2) s

section Insert

variable (s : RuleSet) (rule : Rule) (severity : Severity)

lemma ids_insert : (s.insert rule severity).ids =
    if rule.id ∈ s.ids then s.ids else s.ids ++ [rule.id] := by
  unfold insert
  split
  · unfold ids
    rw [List.map_map]
    apply List.map_congr_left
    intro entry _
    by_cases h : entry.1.id = rule.id <;> simp [h]
  · simp [ids]

lemma nodup_ids_insert (h : s.ids.Nodup) : (s.insert rule severity).ids.Nodup := by
  rw [ids_insert]
  split
  · exact h
  · rename_i hnew
    rw [List.nodup_append]
    refine ⟨h, by simp, ?_⟩
    intro id hid other hother
    obtain rfl : other = rule.id := by simpa using hother
    exact fun he => hnew (he ▸ hid)

lemma find?_insert (id : String) : (s.insert rule severity).entries.find? (·.1.id == id) =
    if rule.id = id then some (rule, severity) else s.entries.find? (·.1.id == id) := by
  unfold insert
  split
  · rename_i hmem
    -- the entry that is replaced keeps its id, so the same place is found as before
    have hsame : (fun entry : Rule × Severity =>
        (if entry.1.id = rule.id then (rule, severity) else entry).1.id == id) =
        fun entry => entry.1.id == id := by
      funext entry
      by_cases h : entry.1.id = rule.id <;> simp [h]
    rw [List.find?_map, Function.comp_def, hsame]
    cases hfind : s.entries.find? (·.1.id == id) with
    | none =>
      obtain ⟨entry, he, hid⟩ := List.mem_map.mp hmem
      have hne : rule.id ≠ id := fun h => by
        simpa [hid, h] using List.find?_eq_none.mp hfind entry he
      simp [hne]
    | some entry =>
      have hid : entry.1.id = id := by simpa using List.find?_some hfind
      by_cases h : rule.id = id
      · simp [h, hid]
      · simp [h, hid, Ne.symm h]
  · rename_i hnew
    rw [List.find?_append]
    by_cases h : rule.id = id
    · have hnone : s.entries.find? (·.1.id == id) = none := by
        rw [List.find?_eq_none]
        intro entry he hid
        exact hnew (List.mem_map.mpr ⟨entry, he, by simpa [h] using hid⟩)
      simp [h, hnone]
    · simp [h]

lemma severity?_insert (id : String) :
    (s.insert rule severity).severity? id =
      if rule.id = id then some severity else s.severity? id := by
  rw [severity?, find?_insert]
  split <;> rfl

end Insert

section InsertAll

variable (s : RuleSet) (added : List (Rule × Severity))

lemma nodup_ids_insertAll (h : s.ids.Nodup) : (s.insertAll added).ids.Nodup := by
  induction added generalizing s with
  | nil => exact h
  | cons entry added ih => exact ih _ (nodup_ids_insert s entry.1 entry.2 h)

lemma ids_insertAll : (s.insertAll added).ids =
    s.ids ++ ((added.map (·.1.id)).filter (· ∉ s.ids)).eraseDups := by
  induction added generalizing s with
  | nil => simp [insertAll]
  | cons entry added ih =>
    have hstep : s.insertAll (entry :: added) = (s.insert entry.1 entry.2).insertAll added := rfl
    rw [hstep, ih, ids_insert]
    by_cases h : entry.1.id ∈ s.ids
    · simp [h]
    · have hrest : (added.map (·.1.id)).filter (fun id => decide (id ∉ s.ids ++ [entry.1.id])) =
          ((added.map (·.1.id)).filter (· ∉ s.ids)).filter fun id => !id == entry.1.id := by
        rw [List.filter_filter]
        apply List.filter_congr
        intro id _
        by_cases hid : id = entry.1.id <;> simp [hid, h]
      rw [if_neg h, hrest, List.map_cons, List.filter_cons_of_pos (by simpa using h),
        List.eraseDups_cons]
      simp

lemma severity?_insertAll (id : String) : (s.insertAll added).severity? id =
    ((added.reverse.find? (·.1.id == id)).map (·.2)).or (s.severity? id) := by
  induction added generalizing s with
  | nil => simp [insertAll]
  | cons entry added ih =>
    have hstep : s.insertAll (entry :: added) = (s.insert entry.1 entry.2).insertAll added := rfl
    rw [hstep, ih, severity?_insert, List.reverse_cons, List.find?_append]
    cases added.reverse.find? (·.1.id == id) with
    | some last => simp
    | none => by_cases h : entry.1.id = id <;> simp [h]

end InsertAll

lemma nodup_ids_foldl_add (rules : List Rule) (d : Draft) (h : d.rules.ids.Nodup) :
    (rules.foldl Draft.add d).rules.ids.Nodup := by
  induction rules generalizing d with
  | nil => exact h
  | cons rule rules ih =>
    apply ih
    unfold Draft.add
    cases severityUnder d.unused rule with
    | none => exact h
    | some severity => exact nodup_ids_insert d.rules rule severity h

lemma nodup_ids_ofSettings {settings : Settings} {s : RuleSet} (h : ofSettings settings = .ok s) :
    s.ids.Nodup := by
  unfold ofSettings at h
  split at h
  · cases h
  · rename_i levels _
    have hdraft := nodup_ids_foldl_add Rule.all ⟨empty, levels⟩ List.nodup_nil
    simp only at h
    split at h
    · cases h
    · cases h
      exact hdraft

lemma nodup_ids_all : all.ids.Nodup := by
  have hall : all = insertAll empty (Rule.all.map fun rule => (rule, .error)) := by
    rw [insertAll, List.foldl_map, all]
  rw [hall]
  exact nodup_ids_insertAll _ _ List.nodup_nil

lemma nodup_ids_apply {s : RuleSet} (h : s.ids.Nodup) (step : Step) : (step.apply s).ids.Nodup := by
  cases step with
  | clear => exact List.nodup_nil
  | fill => exact nodup_ids_all
  | configure settings =>
    rw [Step.apply]
    cases hs : ofSettings settings with
    | error e => exact h
    | ok t => exact nodup_ids_ofSettings hs
  | insert rule severity => exact nodup_ids_insert s rule severity h

lemma nodup_ids_after (steps : List Step) : (after steps).ids.Nodup := by
  have hrun : ∀ s : RuleSet, s.ids.Nodup → (steps.foldl Step.apply s).ids.Nodup := by
    induction steps with
    | nil => exact fun s h => h
    | cons step steps ih => exact fun s h => ih _ (nodup_ids_apply h step)
  exact hrun empty List.nodup_nil

section Distinct

variable {s : RuleSet} (h : s.ids.Nodup)
include h

lemma find?_eq_some_of_mem {entry : Rule × Severity} (hm : entry ∈ s.entries) :
    s.entries.find? (·.1.id == entry.1.id) = some entry := by
  cases hfind : s.entries.find? (·.1.id == entry.1.id) with
  | none => simpa using List.find?_eq_none.mp hfind entry hm
  | some other =>
    have hid : other.1.id = entry.1.id := by simpa using List.find?_some hfind
    rw [List.inj_on_of_nodup_map h (List.mem_of_find?_eq_some hfind) hm hid]

lemma get?_of_mem {entry : Rule × Severity} (hm : entry ∈ s.entries) :
    s.get? entry.1.id = some entry.1 := by
  rw [get?, find?_eq_some_of_mem h hm]
  rfl

lemma severity?_of_mem {entry : Rule × Severity} (hm : entry ∈ s.entries) :
    s.severity? entry.1.id = some entry.2 := by
  rw [severity?, find?_eq_some_of_mem h hm]
  rfl

lemma map_ids : s.ids.map (fun id => (s.get? id, s.severity? id)) =
    s.entries.map fun entry => (some entry.1, some entry.2) := by
  rw [ids, List.map_map]
  apply List.map_congr_left
  intro entry hm
  exact Prod.ext (get?_of_mem h hm) (severity?_of_mem h hm)

end Distinct

lemma find?_isSome_iff (s : RuleSet) (id : String) :
    (s.entries.find? (·.1.id == id)).isSome ↔ id ∈ s.ids := by
  simp [ids]

lemma id_of_get? {s : RuleSet} {id : String} {rule : Rule} (h : s.get? id = some rule) :
    rule.id = id := by
  obtain ⟨entry, hfind, rfl⟩ := Option.map_eq_some_iff.mp h
  simpa using List.find?_some hfind

theorem steps_keep_ids_distinct (steps : List Step) :
    let s := after steps
    s.ids.Nodup ∧
    (∀ entry ∈ s.entries,
      s.get? entry.1.id = some entry.1 ∧ s.severity? entry.1.id = some entry.2) ∧
    (∀ id, ((s.get? id).isSome ↔ id ∈ s.ids) ∧ ((s.severity? id).isSome ↔ id ∈ s.ids)) ∧
    (∀ id rule, s.get? id = some rule → rule.id = id) ∧
    s.ids.map (fun id => (s.get? id, s.severity? id)) =
      s.entries.map (fun entry => (some entry.1, some entry.2)) ∧
    s.describe.map (fun info => (info.id, info.severity)) =
      s.entries.map (fun entry => (entry.1.id, entry.2)) ∧
    s.size = s.ids.length ∧ (s.isEmpty ↔ s.size = 0) ∧
    ∀ (r : RuleSet) (added : List (Rule × Severity)),
      (r.insertAll added).ids =
        r.ids ++ ((added.map (·.1.id)).filter (· ∉ r.ids)).eraseDups ∧
      ∀ id, (r.insertAll added).severity? id =
        ((added.reverse.find? (·.1.id == id)).map (·.2)).or (r.severity? id) := by
  intro s
  have hs : s.ids.Nodup := nodup_ids_after steps
  refine ⟨hs, ?_, ?_, fun id rule => id_of_get?, map_ids hs, ?_, ?_, ?_, ?_⟩
  · intro entry hm
    exact ⟨get?_of_mem hs hm, severity?_of_mem hs hm⟩
  · intro id
    simp only [get?, severity?, Option.isSome_map, find?_isSome_iff, and_self]
  · simp [describe]
  · simp [size, ids]
  · simp [isEmpty, size]
  · intro r added
    exact ⟨ids_insertAll r added, severity?_insertAll r added⟩

def mixedSteps : List Step :=
  [.fill, .configure ⟨[("no-such-rule", .warn)], by decide⟩, .clear,
    .insert (.opening .name) .warning, .insert .unstamped .error, .insert (.opening .name) .error]

theorem mixedSteps_keep_ids_distinct :
    (after mixedSteps).entries = [(.opening .name, .error), (.unstamped, .error)] ∧
    (after mixedSteps).get? "no-ts-version" = some .unstamped ∧
    Rule.unstamped.id = "no-ts-version" ∧
    (after mixedSteps).severity? "source-name" = some .error := by
  obtain ⟨-, hfiled, -, hid, -⟩ := steps_keep_ids_distinct mixedSteps
  have hentries : (after mixedSteps).entries =
      [(.opening .name, .error), (.unstamped, .error)] := by decide
  have hget : (after mixedSteps).get? "no-ts-version" = some .unstamped :=
    (hfiled (.unstamped, .error) (by simp [hentries])).1
  exact ⟨hentries, hget, hid _ _ hget, (hfiled (.opening .name, .error) (by simp [hentries])).2⟩

end ExportLint.RuleSet

import ExportLint.Settings
import Mathlib.Data.List.Nodup

/-! The names of a rule: its id, and its id behind the name of the plugin. Settings that give no
rule two names give it at most one level, whatever the order they are listed in. -/

namespace ExportLint.Settings

def pluginName : String := "pipedream/"

/-- A name stands for the id that is left when the plugin name is taken off its front once. -/
def StandsFor (name id : String) : Prop :=
  name = pluginName ++ id ∨ name = id ∧ ¬ pluginName.toList <+: id.toList

def names (s : Settings) : List String := s.levels.map Prod.fst

def Clash (s : Settings) (id : String) : Prop :=
  ∃ n ∈ s.names, ∃ m ∈ s.names, n ≠ m ∧ StandsFor n id ∧ StandsFor m id

def levelOf? (s : Settings) (id : String) : Option Level :=
  (s.get? id).or (s.get? (pluginName ++ id))

lemma plugin_eq : plugin = pluginName.toList := rfl

lemma ruleId_plugin (id : String) : ruleId (pluginName ++ id) = id := by
  have hp : plugin.isPrefixOf (pluginName ++ id).toList = true := by
    rw [List.isPrefixOf_iff_prefix, plugin_eq, String.toList_append]
    exact List.prefix_append _ _
  rw [ruleId, if_pos hp, plugin_eq, String.toList_append, List.drop_left, String.ofList_toList]

lemma ruleId_of_not_plugin {name : String} (h : ¬ pluginName.toList <+: name.toList) :
    ruleId name = name := by
  have hp : ¬ plugin.isPrefixOf name.toList = true := by
    rwa [List.isPrefixOf_iff_prefix, plugin_eq]
  rw [ruleId, if_neg hp]

lemma ruleId_eq_iff {name id : String} : ruleId name = id ↔ StandsFor name id := by
  constructor
  · rintro rfl
    by_cases h : pluginName.toList <+: name.toList
    · obtain ⟨rest, hrest⟩ := h
      have hname : name = pluginName ++ String.ofList rest := by
        rw [← String.toList_inj, String.toList_append, String.toList_ofList, hrest]
      left
      rw [hname, ruleId_plugin]
    · right
      rw [ruleId_of_not_plugin h]
      exact ⟨rfl, h⟩
  · rintro (rfl | ⟨rfl, h⟩)
    · exact ruleId_plugin id
    · exact ruleId_of_not_plugin h

lemma plugin_append_ne (id : String) : pluginName ++ id ≠ id := by
  intro h
  have hlen : pluginName.length + id.length = id.length := by rw [← String.length_append, h]
  have hpos : 0 < pluginName.length := by decide
  omega

lemma clash_iff {s : Settings} {id : String} :
    s.Clash id ↔ ¬ pluginName.toList <+: id.toList ∧ id ∈ s.names ∧ pluginName ++ id ∈ s.names := by
  constructor
  · rintro ⟨n, hn, m, hm, hne, rfl | ⟨rfl, hn'⟩, rfl | ⟨rfl, hm'⟩⟩
    · exact (hne rfl).elim
    · exact ⟨hm', hm, hn⟩
    · exact ⟨hn', hn, hm⟩
    · exact (hne rfl).elim
  · rintro ⟨hid, hbare, hplugin⟩
    exact ⟨id, hbare, pluginName ++ id, hplugin, (plugin_append_ne id).symm, .inr ⟨rfl, hid⟩,
      .inl rfl⟩

lemma names_nodup (s : Settings) : s.names.Nodup := s.distinct

lemma map_fst_byId (s : Settings) : s.byId.map Prod.fst = s.names.map ruleId := by
  rw [byId, names, List.map_map, List.map_map]
  rfl

lemma nodup_byId_iff (s : Settings) : (s.byId.map Prod.fst).Nodup ↔ ∀ id, ¬ s.Clash id := by
  rw [map_fst_byId, List.nodup_map_iff_inj_on s.names_nodup]
  constructor
  · rintro h id ⟨n, hn, m, hm, hne, hnid, hmid⟩
    exact hne (h n hn m hm ((ruleId_eq_iff.mpr hnid).trans (ruleId_eq_iff.mpr hmid).symm))
  · intro h n hn m hm hid
    by_contra hne
    exact h (ruleId m) ⟨n, hn, m, hm, hne, ruleId_eq_iff.mp hid, ruleId_eq_iff.mp rfl⟩

lemma lookup_eq_some_iff_mem {levels : List (String × Level)} (h : (levels.map Prod.fst).Nodup)
    {name : String} {level : Level} : levels.lookup name = some level ↔ (name, level) ∈ levels := by
  constructor
  · intro hl
    obtain ⟨before, after, rfl, -⟩ := List.lookup_eq_some_iff.mp hl
    simp
  · intro hm
    cases hl : levels.lookup name with
    | none =>
      have hne := List.lookup_eq_none_iff.mp hl (name, level) hm
      simp at hne
    | some other =>
      obtain ⟨before, after, rfl, -⟩ := List.lookup_eq_some_iff.mp hl
      have heq := List.inj_on_of_nodup_map h (x := (name, other)) (by simp) hm rfl
      rw [(Prod.mk.inj heq).2]

lemma get?_eq_some_iff {s : Settings} {name : String} {level : Level} :
    s.get? name = some level ↔ (name, level) ∈ s.levels :=
  lookup_eq_some_iff_mem s.distinct

lemma mem_names_of_get? {s : Settings} {name : String} {level : Level}
    (h : s.get? name = some level) : name ∈ s.names :=
  List.mem_map.mpr ⟨(name, level), get?_eq_some_iff.mp h, rfl⟩

lemma mem_byId_iff {s : Settings} {id : String} {level : Level} :
    (id, level) ∈ s.byId ↔ ∃ name, StandsFor name id ∧ s.get? name = some level := by
  simp only [byId, List.mem_map, Prod.exists, Prod.mk.injEq, get?_eq_some_iff, ← ruleId_eq_iff]
  constructor
  · rintro ⟨name, _, hm, rfl, rfl⟩
    exact ⟨name, rfl, hm⟩
  · rintro ⟨name, rfl, hm⟩
    exact ⟨name, level, hm, rfl, rfl⟩

lemma levelOf?_eq_some_iff {s : Settings} {id : String} {level : Level} (h : ¬ s.Clash id)
    (hid : ¬ pluginName.toList <+: id.toList) :
    s.levelOf? id = some level ↔ ∃ name, StandsFor name id ∧ s.get? name = some level := by
  rw [levelOf?, Option.or_eq_some_iff]
  constructor
  · rintro (hl | ⟨-, hl⟩)
    · exact ⟨id, .inr ⟨rfl, hid⟩, hl⟩
    · exact ⟨pluginName ++ id, .inl rfl, hl⟩
  · rintro ⟨name, rfl | ⟨rfl, -⟩, hl⟩
    · right
      refine ⟨?_, hl⟩
      -- a level under the bare id as well would be a clash
      by_contra hbare
      obtain ⟨other, ho⟩ := Option.ne_none_iff_exists'.mp hbare
      exact h (clash_iff.mpr ⟨hid, mem_names_of_get? ho, mem_names_of_get? hl⟩)
    · exact .inl hl

lemma lookup_byId {s : Settings} (h : ∀ id, ¬ s.Clash id) {id : String}
    (hid : ¬ pluginName.toList <+: id.toList) : s.byId.lookup id = s.levelOf? id := by
  apply Option.ext
  intro level
  rw [lookup_eq_some_iff_mem ((nodup_byId_iff s).mpr h), mem_byId_iff,
    levelOf?_eq_some_iff (h id) hid]

section Reordered

variable {s t : Settings} (h : t.levels.Perm s.levels)
include h

lemma mem_names_of_perm {name : String} : name ∈ t.names ↔ name ∈ s.names :=
  (h.map Prod.fst).mem_iff

lemma clash_of_perm {id : String} : t.Clash id ↔ s.Clash id := by
  simp only [clash_iff, mem_names_of_perm h]

lemma levelOf?_of_perm (id : String) : t.levelOf? id = s.levelOf? id := by
  have hget : ∀ name, t.get? name = s.get? name := by
    intro name
    apply Option.ext
    intro level
    rw [get?_eq_some_iff, get?_eq_some_iff, h.mem_iff]
  rw [levelOf?, levelOf?, hget, hget]

end Reordered

end ExportLint.Settings

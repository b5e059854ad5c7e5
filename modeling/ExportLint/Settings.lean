import ExportLint.Complaint

/-!
Settings give rules a level. A rule is named by its id, which may carry the plugin name in front.
-/

namespace ExportLint

inductive Level where
  | off
  | warn
  | error
deriving DecidableEq, Repr, Inhabited

namespace Level

def severity? : Level → Option Severity
  | off => none
  | warn => some .warning
  | error => some .error

def name : Level → String
  | off => "off"
  | warn => "warn"
  | error => "error"

def ofName? : String → Option Level
  | "off" => some off
  | "warn" => some warn
  | "error" => some error
  | _ => none

def number : Level → Nat
  | off => 0
  | warn => 1
  | error => 2

def ofNumber? : Nat → Option Level
  | 0 => some off
  | 1 => some warn
  | 2 => some error
  | _ => none

end Level

/-- Levels by rule name. Each name has one level. The names stand in the order in which they are met,
on which nothing depends but which of several misnamed rules is told. -/
structure Settings where
  levels : List (String × Level)
  distinct : (levels.map Prod.fst).Nodup
deriving DecidableEq, Repr

namespace Settings

def empty : Settings := ⟨[], List.nodup_nil⟩

instance : Inhabited Settings := ⟨empty⟩

def get? (s : Settings) (name : String) : Option Level :=
  s.levels.lookup name

def replace (levels : List (String × Level)) (name : String) (level : Level) :
    List (String × Level) :=
  levels.map fun entry => if entry.1 = name then (name, level) else entry

theorem map_fst_replace (levels : List (String × Level)) (name : String) (level : Level) :
    (replace levels name level).map Prod.fst = levels.map Prod.fst := by
  rw [replace, List.map_map]
  apply List.map_congr_left
  intro entry _
  by_cases h : entry.1 = name <;> simp [h]

theorem nodup_append_new {levels : List (String × Level)} {name : String} (level : Level)
    (hd : (levels.map Prod.fst).Nodup) (hn : levels.lookup name = none) :
    ((levels ++ [(name, level)]).map Prod.fst).Nodup := by
  have hne : ∀ entry ∈ levels, entry.1 ≠ name := fun entry he h =>
    absurd (List.lookup_eq_none_iff.mp hn entry he) (by simp [h])
  rw [List.map_append, List.nodup_append]
  refine ⟨hd, by simp, ?_⟩
  intro a ha b hb
  obtain ⟨entry, he, rfl⟩ := List.mem_map.mp ha
  obtain rfl : b = name := by simpa using hb
  exact hne entry he

def set (s : Settings) (name : String) (level : Level) : Settings :=
  match h : s.levels.lookup name with
  | some _ => ⟨replace s.levels name level, by rw [map_fst_replace]; exact s.distinct⟩
  | none => ⟨s.levels ++ [(name, level)], nodup_append_new level s.distinct h⟩

/-- What comes before the id of a rule in a name that says where the rule is from. -/
def plugin : List Char := "pipedream/".toList

def ruleId (name : String) : String :=
  if plugin.isPrefixOf name.toList then String.ofList (name.toList.drop plugin.length) else name

/-- Levels by rule id. Two names of one rule show up as two entries. -/
def byId (s : Settings) : List (String × Level) :=
  s.levels.map fun entry => (ruleId entry.1, entry.2)

end Settings

end ExportLint

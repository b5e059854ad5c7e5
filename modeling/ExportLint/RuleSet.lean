import ExportLint.Rule
import ExportLint.Settings

/-!
Rule sets: the rules that take part in a run, in running order, each with its severity.
-/

namespace ExportLint

structure RuleSet where
  entries : List (Rule × Severity)
deriving DecidableEq, Repr, Inhabited

inductive NamingError where
  /-- No rule has this id. -/
  | unknown (id : String)
  /-- Two names stand for this id. -/
  | duplicate (id : String)
deriving DecidableEq, Repr, Inhabited

namespace NamingError

def message : NamingError → String
  | unknown id => "Unknown rule `" ++ id ++ "`"
  | duplicate id => "Rule `" ++ id ++ "` is configured more than once"

end NamingError

namespace RuleSet

def empty : RuleSet := ⟨[]⟩

def ids (s : RuleSet) : List String := s.entries.map (·.1.id)

def size (s : RuleSet) : Nat := s.entries.length

def isEmpty (s : RuleSet) : Bool := s.entries.isEmpty

def get? (s : RuleSet) (id : String) : Option Rule :=
  (s.entries.find? (·.1.id == id)).map (·.1)

def severity? (s : RuleSet) (id : String) : Option Severity :=
  (s.entries.find? (·.1.id == id)).map (·.2)

/-- Adds a rule at the end. A rule that is there already keeps its place and takes the new
severity. -/
def insert (s : RuleSet) (rule : Rule) (severity : Severity) : RuleSet :=
  if rule.id ∈ s.ids then
    ⟨s.entries.map fun entry => if entry.1.id = rule.id then (rule, severity) else entry⟩
  else ⟨s.entries ++ [(rule, severity)]⟩

def all : RuleSet :=
  Rule.all.foldl (fun s rule => s.insert rule .error) empty

/-- The severity of a rule under these levels: that of its level, an error if it has none. -/
def severityUnder (levels : List (String × Level)) (rule : Rule) : Option Severity :=
  ((levels.lookup rule.id).getD .error).severity?

/-- Levels by rule id, entered one by one behind those that are `taken`. The first id that has a
level already is refused. -/
def collect (taken : List (String × Level)) :
    List (String × Level) → Except NamingError (List (String × Level))
  | [] => .ok taken
  | (id, level) :: rest =>
    if (taken.lookup id).isSome then .error (.duplicate id)
    else collect (taken ++ [(id, level)]) rest

/-- A rule set in the making: the rules so far, and the levels that no rule has used. -/
structure Draft where
  rules : RuleSet
  unused : List (String × Level)
deriving DecidableEq, Repr, Inhabited

/-- The next rule uses its level, if it has one, and is left out if that is off. -/
def Draft.add (d : Draft) (rule : Rule) : Draft where
  rules :=
    match severityUnder d.unused rule with
    | some severity => d.rules.insert rule severity
    | none => d.rules
  unused := d.unused.eraseP (·.1 == rule.id)

/-- The rules that settings leave on. That a rule is named twice is noticed first. -/
def ofSettings (settings : Settings) : Except NamingError RuleSet :=
  match collect [] settings.byId with
  | .error e => .error e
  | .ok levels =>
    let draft := Rule.all.foldl Draft.add ⟨empty, levels⟩
    match draft.unused with
    | (id, _) :: _ => .error (.unknown id)
    | [] => .ok draft.rules

end RuleSet

structure RuleInfo where
  id : String
  category : Category
  url? : Option String
  severity : Severity
deriving DecidableEq, Repr, Inhabited

def RuleSet.describe (s : RuleSet) : List RuleInfo :=
  s.entries.map fun (rule, severity) => ⟨rule.id, rule.category, rule.url?, severity⟩

end ExportLint

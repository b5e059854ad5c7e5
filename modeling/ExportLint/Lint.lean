import ExportLint.Parser.Program
import ExportLint.Run
import ExportLint.Settings.Writer

/-!
Linting a source: settings are turned into a rule set, the source is parsed, and the rules run over
it. The first of these that fails decides the error.
-/

namespace ExportLint

inductive LintError where
  | unreadable (error : Settings.ReadError)
  | naming (error : NamingError)
  | parse (filename : String) (messages : List String)
deriving DecidableEq, Repr, Inhabited

namespace LintError

def message : LintError → String
  | unreadable error => "Invalid rules configuration: " ++ error.message
  | naming error => error.message
  | parse filename messages =>
    "Failed to parse " ++ filename ++ ": " ++ "; ".intercalate messages

end LintError

structure Logged (α : Type) where
  result : α
  events : List Event

def defaultFilename : String := "component.mjs"

/-- A way to read modules: the name and the text of a source give its program, or the messages of
what is wrong with it. -/
abbrev ModuleReader := String → String → Except (List String) Program

namespace ModuleReader

variable (read : ModuleReader)

/-- Lints a source with a rule set. Findings are reported in the order of the source. -/
def lintWith (rules : RuleSet) (filename source : String) : Logged (Except LintError Report) :=
  match read filename source with
  | .error messages =>
    ⟨.error (.parse filename messages), [.parseFailed filename messages.length]⟩
  | .ok program =>
    let run := Run.ofProgram rules source program
    let report := run.report.sorted
    ⟨.ok report, run.events ++ [.linted filename report.findings.length]⟩

def lint (settings : Settings) (filename source : String) : Logged (Except LintError Report) :=
  match RuleSet.ofSettings settings with
  | .error e => ⟨.error (.naming e), []⟩
  | .ok rules => read.lintWith rules filename source

/-- Lints a source under levels given as strings, and says where each finding is. -/
def lintComponent (source : String) (filename? : Option String)
    (levels? : Option (List (String × String))) : Except LintError (List (Finding × Position)) := do
  let settings ← match levels? with
    | some levels => (Settings.ofNames levels).mapError .unreadable
    | none => pure .empty
  let report ← (read.lint settings (filename?.getD defaultFilename) source).result
  return report.findings.map fun f => (f, f.position source)

def ofDialects : ModuleReader := fun filename source =>
  (Parser.parse (Dialect.ofFilename filename) source).mapError fun e => [e.message]

end ModuleReader

def lintWith : RuleSet → String → String → Logged (Except LintError Report) :=
  ModuleReader.ofDialects.lintWith

def lint : Settings → String → String → Logged (Except LintError Report) :=
  ModuleReader.ofDialects.lint

def lintComponent : String → Option String → Option (List (String × String)) →
    Except LintError (List (Finding × Position)) :=
  ModuleReader.ofDialects.lintComponent

end ExportLint

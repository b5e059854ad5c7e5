import ExportLint.Tree.Visit
import ExportLint.RuleSet
import ExportLint.Report

/-!
A run of a rule set over a module. Every statement is handed to every rule as it is met.
-/

namespace ExportLint

inductive Event where
  | linting (rules : Nat)
  | resolved (span : Span)
  | finished (findings : Nat)
  | linted (filename : String) (findings : Nat)
  | parseFailed (filename : String) (errors : Nat)
deriving DecidableEq, Repr, Inhabited

namespace Event

inductive Importance where
  | debug
  | trace
deriving DecidableEq, Repr, Inhabited

def importance : Event → Importance
  | resolved _ => .trace
  | _ => .debug

def message : Event → String
  | linting _ => "linting program"
  | resolved _ => "resolved component export"
  | finished _ => "lint finished"
  | linted _ _ => "linted"
  | parseFailed _ _ => "parse failed"

end Event

structure Run where
  findings : List Finding
  events : List Event
deriving DecidableEq, Repr, Inhabited

namespace RuleSet

def check (rules : RuleSet) (source : String) (s : Stmt) : List Finding :=
  rules.entries.flatMap fun (rule, severity) =>
    (rule.check source s).map fun complaint => ⟨rule, severity, complaint⟩

end RuleSet

namespace Run

def step (rules : RuleSet) (source : String) (run : Run) (s : Stmt) : Run where
  findings := run.findings ++ rules.check source s
  events := if s.component?.isSome then run.events ++ [.resolved s.span] else run.events

def ofProgram (rules : RuleSet) (source : String) (program : Program) : Run :=
  let run := program.visit (step rules source) ⟨[], [.linting rules.size]⟩
  { run with events := run.events ++ [.finished run.findings.length] }

def report (run : Run) : Report := ⟨run.findings⟩

end Run

end ExportLint

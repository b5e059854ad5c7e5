import ExportLint.Rule
import ExportLint.Text.Position

/-!
Reports: the findings of a run, in the order they were made or in the order of the source.
-/

namespace ExportLint

/-- A complaint, with the rule that made it and the severity it is made at. -/
structure Finding where
  rule : Rule
  severity : Severity
  complaint : Complaint
deriving DecidableEq, Repr, Inhabited

namespace Finding

def span (f : Finding) : Span := f.complaint.span

def message (f : Finding) : String := f.complaint.message

def position (f : Finding) (source : String) : Position :=
  Position.ofOffset source f.span.start

end Finding

structure Report where
  findings : List Finding
deriving DecidableEq, Repr, Inhabited

namespace Report

def count (r : Report) (severity : Severity) : Nat :=
  (r.findings.filter (·.severity == severity)).length

def errorCount (r : Report) : Nat := r.count .error

def warningCount (r : Report) : Nat := r.count .warning

def hasErrors (r : Report) : Bool := 0 < r.errorCount

def hasWarnings (r : Report) : Bool := 0 < r.warningCount

def forRule (r : Report) (id : String) : List Finding :=
  r.findings.filter (·.rule.id == id)

/-- The findings in the order of the source. Those with equal spans keep their order. -/
def sorted (r : Report) : Report :=
  ⟨r.findings.mergeSort fun a b => a.span.le b.span⟩

end Report

end ExportLint

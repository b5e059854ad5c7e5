import ExportLint.Text.Span

/-!
What a rule reports.
-/

namespace ExportLint

inductive Severity where
  | error
  | warning
deriving DecidableEq, Repr, Inhabited

namespace Severity

def name : Severity → String
  | error => "error"
  | warning => "warning"

end Severity

structure Complaint where
  span : Span
  message : String
deriving DecidableEq, Repr, Inhabited

end ExportLint

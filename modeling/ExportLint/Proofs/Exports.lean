import ExportLint.Proofs.Traversal

/-! What a run over a module finds and tells depends only on its exports: the components that its
statements export, each with the span of its statement, in reading order. -/

namespace ExportLint

def Stmt.shipped? (s : Stmt) : Option (Span × Component) :=
  s.component?.map fun c => (s.span, c)

def Part.exports (p : Part) : List (Span × Component) :=
  p.statements.filterMap Stmt.shipped?

def Program.exports (program : Program) : List (Span × Component) :=
  program.statements.filterMap Stmt.shipped?

lemma Part.exports_eq (p : Part) :
    p.exports = (p.stmt?.bind Stmt.shipped?).toList ++ p.children.flatMap exports := by
  rw [exports, statements_eq, List.filterMap_append, List.filterMap_flatMap]
  cases p.stmt? with
  | none => rfl
  | some s => cases hs : s.shipped? <;> simp [hs] <;> rfl

lemma Program.exports_eq (program : Program) :
    program.exports = (program.map Part.stmt).flatMap Part.exports := by
  rw [exports, statements, List.filterMap_flatMap]
  rfl

def RuleSet.examine (rules : RuleSet) (source : String) (e : Span × Component) : List Finding :=
  rules.entries.flatMap fun (rule, severity) =>
    (rule.examine source e.1 e.2).map fun complaint => ⟨rule, severity, complaint⟩

lemma RuleSet.check_eq_examine (rules : RuleSet) (source : String) (s : Stmt) :
    rules.check source s = s.shipped?.toList.flatMap (rules.examine source) := by
  unfold check Rule.check Stmt.shipped?
  cases s.component? with
  | none => simp
  | some c => simp [examine]

namespace Run

variable (rules : RuleSet) (source : String)

lemma findings_eq_exports (program : Program) :
    (ofProgram rules source program).findings =
      program.exports.flatMap (rules.examine source) := by
  rw [findings_ofProgram, Program.exports]
  induction program.statements with
  | nil => rfl
  | cons s statements ih =>
    rw [List.flatMap_cons, ih, RuleSet.check_eq_examine]
    cases hs : s.shipped? <;> simp [hs]

lemma events_foldl_step (statements : List Stmt) (run : Run) :
    (statements.foldl (step rules source) run).events =
      run.events ++ (statements.filterMap Stmt.shipped?).map fun e => .resolved e.1 := by
  induction statements generalizing run with
  | nil => simp
  | cons s statements ih =>
    rw [List.foldl_cons, ih]
    cases hc : s.component? with
    | none => simp [step, Stmt.shipped?, hc]
    | some c => simp [step, Stmt.shipped?, hc]

lemma events_eq_exports (program : Program) :
    (ofProgram rules source program).events =
      .linting rules.size :: program.exports.map (fun e => .resolved e.1) ++
        [.finished (ofProgram rules source program).findings.length] := by
  simp only [ofProgram, Program.visit_eq_foldl, events_foldl_step, Program.exports]
  rfl

end Run

end ExportLint

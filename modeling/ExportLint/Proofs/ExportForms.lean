import ExportLint.Proofs.Rewriting

/-! The form of an export does not matter, nor do statements that export nothing. A module in which
assignments to `module.exports` are written as default exports, and to which such statements are
added, is linted as it was before. -/

namespace ExportLint

namespace Part

/-- Parts in a row, related one by one, with statements in between that neither export a component
nor hold a statement that does. -/
inductive Row (related : Part → Part → Prop) : List Part → List Part → Prop
  | nil : Row related [] []
  | cons {p q : Part} {ps qs : List Part} :
      related p q → Row related ps qs → Row related (p :: ps) (q :: qs)
  | insert {s : Stmt} {ps qs : List Part} :
      (∀ t ∈ (stmt s).statements, t.component? = none) → Row related ps qs →
      Row related ps (stmt s :: qs)

/-- The second part is the first with some of its statements `module.exports = e`, at any depth,
written `export default e`, and with statements inserted that export nothing. -/
inductive Reworded : Part → Part → Prop
  | keep {p q : Part} : p.root = q.root → Row Reworded p.children q.children → Reworded p q
  | swap {span assigned : Span} {operator : String} {target value value' : Expr} :
      target.isModuleExports → Reworded (expr value) (expr value') →
      Reworded (stmt (.expression span (.assignment assigned operator target value)))
        (stmt (.exportDefault span (.expr value')))

end Part

def Program.Reworded (p q : Program) : Prop :=
  Part.Row Part.Reworded (p.map .stmt) (q.map .stmt)

def Edits.exportForms : Edits where
  key _ _ := False
  value := Eq
  extra s := ∀ t ∈ (Part.stmt s).statements, t.component? = none
  forms := True

namespace Part

lemma exports_of_idle {s : Stmt} (h : ∀ t ∈ (stmt s).statements, t.component? = none) :
    (stmt s).exports = [] := by
  rw [exports, List.filterMap_eq_nil_iff]
  intro t ht
  rw [Stmt.shipped?, h t ht]
  rfl

lemma Row.refl {related : Part → Part → Prop} {ps : List Part} (h : ∀ p ∈ ps, related p p) :
    Row related ps ps := by
  induction ps with
  | nil => exact .nil
  | cons p ps ih =>
    rw [List.forall_mem_cons] at h
    exact .cons h.1 (ih h.2)

lemma Reworded.refl (p : Part) : Reworded p p := by
  induction p using children_induction with
  | step p ih => exact .keep rfl (Row.refl ih)

lemma Row.padded {related related' : Part → Part → Prop} {ps qs : List Part}
    (h : Row related ps qs) (hps : ∀ p ∈ ps, ∀ q, related p q → related' p q) :
    Padded Edits.exportForms.extra related' ps qs := by
  induction h with
  | nil => exact .nil
  | @cons p q _ _ hpq _ ih =>
    rw [List.forall_mem_cons] at hps
    exact .cons (hps.1 q hpq) (ih hps.2)
  | insert hidle _ ih => exact .insert hidle (ih hps)

lemma Reworded.rewritten {p q : Part} (h : Reworded p q) : Rewritten .exportForms p q := by
  induction p using children_induction generalizing q with
  | step p ih =>
    cases h with
    | keep hroot hrow => exact .keep hroot (hrow.padded fun c hc _ => ih c hc)
    | @swap span assigned operator target value value' htarget hvalue =>
      -- the value stands two levels down, so it is reached through the assignment
      have hassign : Reworded (expr (.assignment assigned operator target value))
          (expr (.assignment assigned operator target value')) :=
        .keep rfl (.cons (.refl (expr target)) (.cons hvalue .nil))
      apply Rewritten.form trivial htarget
      cases ih _ List.mem_cons_self hassign with
      | keep _ hrow =>
        cases hrow with
        | cons _ hrest => exact hrest.of_singleton
      | assignment _ hv hw => exact hw ▸ hv

end Part

lemma Edits.exportForms_harmless : Edits.exportForms.Harmless where
  spelled h := h.elim
  key_exports h := h.elim
  value_refl _ := rfl
  text h := congrArg Expr.staticString? h
  object h := congrArg Expr.object? h
  value_exports h := congrArg (fun e => (Part.expr e).exports) h
  extra_exports := Part.exports_of_idle

namespace Part

/-- Exports by statements with the same span, of components that no rule can tell apart. -/
abbrev Twins : Span × Component → Span × Component → Prop :=
  Export.Like (Key.Rewritten .exportForms) (Expr.Rewritten .exportForms)

lemma Row.exports {ps qs : List Part} (h : Row Reworded ps qs)
    (hps : ∀ p ∈ ps, ∀ q, Reworded p q → List.Forall₂ Twins p.exports q.exports) :
    List.Forall₂ Twins (ps.flatMap exports) (qs.flatMap exports) :=
  (h.padded hps).exports (fun _ => exports_of_idle) fun _ _ _ h => h

lemma Reworded.exports {p q : Part} (h : Reworded p q) :
    List.Forall₂ Twins p.exports q.exports :=
  h.rewritten.exports Edits.exportForms_harmless

end Part

lemma RuleSet.examine_twins (rules : RuleSet) (source : String) {x y : Span × Component}
    (h : Part.Twins x y) : rules.examine source x = rules.examine source y := by
  have hE := Edits.exportForms_harmless
  have htruth : ∀ e w, Edits.exportForms.value e w → e.truthy? = w.truthy? :=
    fun _ _ h => congrArg Expr.truthy? h
  exact RuleSet.examine_eq hE.keys hE.values (fun _ _ _ _ _ => Expr.Rewritten.truthy? htruth)
    (fun _ _ hk => hk.elim id False.elim) source h

theorem ofProgram_reworded {p q : Program} (h : p.Reworded q) (rules : RuleSet) (source : String) :
    Run.ofProgram rules source p = Run.ofProgram rules source q := by
  have hexports : List.Forall₂ Part.Twins p.exports q.exports := by
    rw [Program.exports_eq, Program.exports_eq]
    exact Part.Row.exports h fun _ _ _ => Part.Reworded.exports
  have hexamine : p.exports.map (rules.examine source) = q.exports.map (rules.examine source) := by
    rw [← List.forall₂_eq_eq_eq]
    exact List.rel_map (fun _ _ hxy => rules.examine_twins source hxy) hexports
  have hspans : p.exports.map (fun e => Event.resolved e.1) =
      q.exports.map (fun e => Event.resolved e.1) := by
    rw [← List.forall₂_eq_eq_eq]
    exact List.rel_map (fun _ _ hxy => congrArg Event.resolved hxy.span) hexports
  have hfindings : (Run.ofProgram rules source p).findings =
      (Run.ofProgram rules source q).findings := by
    rw [Run.findings_eq_exports, Run.findings_eq_exports, List.flatMap_def, List.flatMap_def,
      hexamine]
  have hevents : (Run.ofProgram rules source p).events = (Run.ofProgram rules source q).events := by
    rw [Run.events_eq_exports, Run.events_eq_exports, hspans, hfindings]
  exact congrArg₂ Run.mk hfindings hevents

def assigned (span : Span) (value : Expr) : Stmt :=
  .expression span (.assignment span "="
    (.member span (.identifier span "module") "exports") value)

def bystander : Stmt := .expression ⟨0, 0⟩ (.identifier ⟨0, 0⟩ "x")

def emptyKey : Expr :=
  .parenthesized ⟨50, 63⟩
    (.object ⟨51, 62⟩ [.property ⟨53, 60⟩ (.word ⟨53, 56⟩ "key") (.string ⟨58, 60⟩ "")])

def withMethod (body : List Node) : Expr :=
  .object ⟨17, 66⟩ [.property ⟨19, 64⟩ (.word ⟨19, 22⟩ "run") (.compound ⟨22, 64⟩ .other body)]

def nestedAssigned : Program :=
  [assigned ⟨0, 67⟩ (withMethod [.stmt (assigned ⟨33, 63⟩ emptyKey)])]

def nestedDefault : Program :=
  [bystander, .exportDefault ⟨0, 67⟩ (.expr (withMethod
    [.stmt (.exportDefault ⟨33, 63⟩ (.expr emptyKey)), .stmt bystander]))]

theorem nestedAssigned_reworded :
    nestedAssigned.Reworded nestedDefault ∧
    Run.ofProgram .all "" nestedAssigned = Run.ofProgram .all "" nestedDefault := by
  have hidle : ∀ t ∈ (Part.stmt bystander).statements, t.component? = none := by
    simp [Part.statements_eq, Part.children, Part.stmt?, bystander, Stmt.component?,
      Stmt.exported?]
  have hinner : Part.Reworded (.stmt (assigned ⟨33, 63⟩ emptyKey))
      (.stmt (.exportDefault ⟨33, 63⟩ (.expr emptyKey))) := .swap rfl (.refl _)
  have hmethod : Part.Reworded
      (.expr (.compound ⟨22, 64⟩ .other [.stmt (assigned ⟨33, 63⟩ emptyKey)]))
      (.expr (.compound ⟨22, 64⟩ .other
        [.stmt (.exportDefault ⟨33, 63⟩ (.expr emptyKey)), .stmt bystander])) :=
    .keep rfl (.cons hinner (.insert hidle .nil))
  have h : nestedAssigned.Reworded nestedDefault :=
    .insert hidle (.cons (.swap rfl (.keep rfl
      (.cons (.keep rfl (.cons (.refl _) (.cons hmethod .nil))) .nil))) .nil)
  exact ⟨h, ofProgram_reworded h .all ""⟩

end ExportLint

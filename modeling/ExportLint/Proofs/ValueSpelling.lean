import ExportLint.Proofs.Rewriting

/-! How values are spelled does not matter. Values in parentheses are what they are without them,
and a template without substitutions has the text of a string literal. Only the rule on defaults
looks at the truth of a value, and a template has none that the source shows. -/

namespace ExportLint

namespace Expr

inductive Wrapped : Expr → Expr → Prop
  | none {e : Expr} : Wrapped e e
  | wrap {span : Span} {e w : Expr} : Wrapped e w → Wrapped e (.parenthesized span w)

/-- A string literal may be written as a template with the same text. -/
inductive Templated : Expr → Expr → Prop
  | same {e : Expr} : Templated e e
  | template {span span' : Span} {text : String} {chunk : Chunk} : chunk.cooked? = some text →
      Templated (.string span text) (.template span' [chunk] [])

variable {e w : Expr}

namespace Wrapped

lemma bare_eq (h : e.Wrapped w) : e.bare = w.bare := by
  induction h with
  | none => rfl
  | wrap _ ih => rw [ih, bare]

lemma exports_eq (h : e.Wrapped w) : (Part.expr e).exports = (Part.expr w).exports := by
  induction h with
  | none => rfl
  | @wrap span e w _ ih =>
    rw [ih, Part.exports_eq (.expr (.parenthesized span w))]
    simp [Part.stmt?, Part.children]

lemma truthy?_eq (h : e.Wrapped w) : e.truthy? = w.truthy? := by
  rw [truthy?, truthy?, h.bare_eq]

end Wrapped

namespace Templated

lemma staticString?_eq (h : e.Templated w) : e.staticString? = w.staticString? := by
  cases h with
  | same => rfl
  | template hc => simp [staticString?, bare, hc]

lemma object?_eq (h : e.Templated w) : e.object? = w.object? := by
  cases h <;> rfl

lemma exports_eq (h : e.Templated w) : (Part.expr e).exports = (Part.expr w).exports := by
  cases h with
  | same => rfl
  | template _ => simp [Part.exports_eq, Part.stmt?, Part.children]

end Templated

end Expr

namespace Edits

def ofValues (V : Expr → Expr → Prop) : Edits where
  key _ _ := False
  value := V
  extra _ := False
  forms := False

lemma wrapped_harmless : (ofValues Expr.Wrapped).Harmless where
  spelled h := h.elim
  key_exports h := h.elim
  value_refl _ := .none
  text h := by rw [Expr.staticString?, Expr.staticString?, Expr.Wrapped.bare_eq h]
  object h := by rw [Expr.object?, Expr.object?, Expr.Wrapped.bare_eq h]
  value_exports h := Expr.Wrapped.exports_eq h
  extra_exports h := h.elim

lemma templated_harmless : (ofValues Expr.Templated).Harmless where
  spelled h := h.elim
  key_exports h := h.elim
  value_refl _ := .same
  text h := Expr.Templated.staticString?_eq h
  object h := Expr.Templated.object?_eq h
  value_exports h := Expr.Templated.exports_eq h
  extra_exports h := h.elim

lemma ofValues_same (V : Expr → Expr → Prop) (k k' : Key) (h : k.Rewritten (ofValues V) k') :
    k.Same k' :=
  h.elim id False.elim

end Edits

theorem value_spelling_changes_no_finding (rules : RuleSet) (source : String) (p q : Program) :
    (p.Rewritten (.ofValues Expr.Wrapped) q →
      Run.ofProgram rules source p = Run.ofProgram rules source q) ∧
    (p.Rewritten (.ofValues Expr.Templated) q →
      (Run.ofProgram rules source p).findings.filter (fun f => f.rule ≠ .defaulted) =
        (Run.ofProgram rules source q).findings.filter (fun f => f.rule ≠ .defaulted)) := by
  constructor
  · intro h
    exact h.ofProgram_eq Edits.wrapped_harmless (fun _ _ hk => hk.elim)
      (fun _ _ hv => Expr.Wrapped.truthy?_eq hv) rules source
  · intro h
    have hE := Edits.templated_harmless
    rw [Run.filter_findings rules source p (· ≠ .defaulted),
      Run.filter_findings rules source q (· ≠ .defaulted)]
    refine Run.findings_eq_of_forall₂ (h.exports hE) fun x y hxy => ?_
    refine RuleSet.examine_eq hE.keys hE.values ?_ (Edits.ofValues_same _) source hxy
    intro entry hentry hdefaulted
    simp [hdefaulted] at hentry

def undecided (name optional : Expr) : Expr :=
  .object ⟨17, 87⟩
    [.property ⟨19, 33⟩ (.word ⟨19, 23⟩ "type") (.string ⟨25, 33⟩ "source"),
      .property ⟨35, 47⟩ (.word ⟨35, 39⟩ "name") name,
      .property ⟨49, 85⟩ (.word ⟨49, 54⟩ "props") (.object ⟨56, 85⟩
        [.property ⟨58, 83⟩ (.word ⟨58, 59⟩ "p") (.object ⟨61, 83⟩
          [.property ⟨63, 81⟩ (.word ⟨63, 71⟩ "optional") optional])])]

def assigning (value : Expr) : Program :=
  [.expression ⟨0, 88⟩ (.assignment ⟨0, 87⟩ "="
    (.member ⟨0, 14⟩ (.identifier ⟨0, 6⟩ "module") "exports") value)]

lemma assigning_rewritten {V : Expr → Expr → Prop} {name name' optional optional' value : Expr}
    (hname : V name name') (hoptional : V optional optional')
    (hvalue : V (undecided name' optional') value) :
    (assigning (undecided name optional)).Rewritten (.ofValues V) (assigning value) := by
  have hundecided : Part.Rewritten (.ofValues V) (.expr (undecided name optional))
      (.expr (undecided name' optional')) := by
    refine .keep rfl (.cons (.refl _) (.cons ?_ (.cons ?_ .nil)))
    · exact .property (.refl _) (.refl _) hname
    · refine .keep rfl (.cons (.refl _) (.cons (.keep rfl (.cons ?_ .nil)) .nil))
      refine .keep rfl (.cons (.refl _) (.cons (.keep rfl (.cons ?_ .nil)) .nil))
      exact .property (.refl _) (.refl _) hoptional
  exact .cons (.keep rfl (.cons (.assignment (.refl _) hundecided hvalue) .nil)) .nil

theorem undecided_value_spelling :
    Run.ofProgram .all "" (assigning (undecided (.string ⟨41, 47⟩ "Rows") (.boolean ⟨73, 77⟩ true))) =
      Run.ofProgram .all "" (assigning (.parenthesized ⟨16, 88⟩
        (undecided (.parenthesized ⟨40, 48⟩ (.parenthesized ⟨40, 48⟩ (.string ⟨41, 47⟩ "Rows")))
          (.parenthesized ⟨72, 78⟩ (.boolean ⟨73, 77⟩ true))))) ∧
    (Run.ofProgram .all "" (assigning (undecided (.string ⟨41, 47⟩ "Rows")
        (.string ⟨73, 78⟩ "yes")))).findings.filter (fun f => f.rule ≠ .defaulted) =
      (Run.ofProgram .all "" (assigning (undecided
        (.template ⟨41, 47⟩ [⟨⟨42, 46⟩, "Rows", some "Rows"⟩] [])
        (.template ⟨73, 78⟩ [⟨⟨74, 77⟩, "yes", some "yes"⟩] [])))).findings.filter
          (fun f => f.rule ≠ .defaulted) := by
  constructor
  · exact (value_spelling_changes_no_finding .all "" _ _).1
      (assigning_rewritten (.wrap (.wrap .none)) (.wrap .none) (.wrap .none))
  · exact (value_spelling_changes_no_finding .all "" _ _).2
      (assigning_rewritten (.template rfl) (.template rfl) .same)

end ExportLint

import ExportLint.Proofs.Exports
import ExportLint.Proofs.Guidelines
import ExportLint.Proofs.Lookalikes
import ExportLint.Proofs.Roots

/-! Modules that are written in two ways, anywhere in the tree and in many places at once. Where the
ways to write a key or a value show the rules the same, a module written anew has the exports it had
before, but for what no rule can tell apart. -/

namespace ExportLint

structure Edits where
  /-- Keys that may be written as others. -/
  key : Key → Key → Prop
  /-- Values of properties, assigned values and exported values that may be written as others. -/
  value : Expr → Expr → Prop
  /-- Statements that may be added. -/
  extra : Stmt → Prop
  /-- Whether an assignment to `module.exports` may be written as a default export. -/
  forms : Prop

namespace Part

/-- Parts in a row, related one by one, with extra statements in between. -/
inductive Padded (extra : Stmt → Prop) (related : Part → Part → Prop) :
    List Part → List Part → Prop
  | nil : Padded extra related [] []
  | cons {p q : Part} {ps qs : List Part} : related p q → Padded extra related ps qs →
      Padded extra related (p :: ps) (q :: qs)
  | insert {s : Stmt} {ps qs : List Part} : extra s → Padded extra related ps qs →
      Padded extra related ps (stmt s :: qs)

/-- The second part is the first, edited wherever the edits apply. -/
inductive Rewritten (E : Edits) : Part → Part → Prop
  | keep {p q : Part} : p.root = q.root → Padded E.extra (Rewritten E) p.children q.children →
      Rewritten E p q
  | key {k k' : Key} : E.key k k' → Rewritten E (key k) (key k')
  | property {span : Span} {k k' : Key} {v v' w : Expr} : Rewritten E (key k) (key k') →
      Rewritten E (expr v) (expr v') → E.value v' w →
      Rewritten E (entry (.property span k v)) (entry (.property span k' w))
  | assignment {span : Span} {operator : String} {t t' v v' w : Expr} :
      Rewritten E (expr t) (expr t') → Rewritten E (expr v) (expr v') → E.value v' w →
      Rewritten E (expr (.assignment span operator t v)) (expr (.assignment span operator t' w))
  | exportDefault {span : Span} {v v' w : Expr} : Rewritten E (expr v) (expr v') → E.value v' w →
      Rewritten E (stmt (.exportDefault span (.expr v))) (stmt (.exportDefault span (.expr w)))
  | form {span assigned : Span} {operator : String} {t v v' : Expr} : E.forms →
      t.isModuleExports → Rewritten E (expr v) (expr v') →
      Rewritten E (stmt (.expression span (.assignment assigned operator t v)))
        (stmt (.exportDefault span (.expr v')))

end Part

def Program.Rewritten (E : Edits) (p q : Program) : Prop :=
  Part.Padded E.extra (Part.Rewritten E) (p.map .stmt) (q.map .stmt)

def Key.Rewritten (E : Edits) (k k' : Key) : Prop := k.Same k' ∨ E.key k k'

def Expr.Rewritten (E : Edits) (e w : Expr) : Prop :=
  ∃ e', Part.Rewritten E (.expr e) (.expr e') ∧ E.value e' w

/-- Edits that change nothing a rule looks at, truth apart, and neither add exports nor lose any. -/
structure Edits.Harmless (E : Edits) : Prop where
  spelled {k k' : Key} : E.key k k' → ∀ name ∈ fieldNames, (k.Spelled name ↔ k'.Spelled name)
  key_exports {k k' : Key} : E.key k k' → (Part.key k).exports = [] ∧ (Part.key k').exports = []
  value_refl (e : Expr) : E.value e e
  text {e w : Expr} : E.value e w → e.staticString? = w.staticString?
  object {e w : Expr} : E.value e w → e.object? = w.object?
  value_exports {e w : Expr} : E.value e w → (Part.expr e).exports = (Part.expr w).exports
  extra_exports {s : Stmt} : E.extra s → (Part.stmt s).exports = []

namespace Part

namespace Padded

variable {extra : Stmt → Prop} {related : Part → Part → Prop} {ps qs : List Part}

lemma forall₂ (h : Padded extra related ps qs) (hq : ∀ q ∈ qs, q.stmt? = none) :
    List.Forall₂ related ps qs := by
  induction h with
  | nil => exact .nil
  | cons hr _ ih =>
    rw [List.forall_mem_cons] at hq
    exact .cons hr (ih hq.2)
  | insert _ _ _ =>
    rw [List.forall_mem_cons] at hq
    cases hq.1

lemma of_singleton {p q : Part} (h : Padded extra related [p] [q]) : related p q := by
  cases h with
  | cons hr _ => exact hr
  | insert _ hrest => cases hrest

lemma refl (h : ∀ p ∈ ps, related p p) : Padded extra related ps ps := by
  induction ps with
  | nil => exact .nil
  | cons p ps ih =>
    rw [List.forall_mem_cons] at h
    exact .cons h.1 (ih h.2)

lemma exports {S : Span × Component → Span × Component → Prop} (h : Padded extra related ps qs)
    (hextra : ∀ s, extra s → (stmt s).exports = [])
    (hps : ∀ p ∈ ps, ∀ q, related p q → List.Forall₂ S p.exports q.exports) :
    List.Forall₂ S (ps.flatMap Part.exports) (qs.flatMap Part.exports) := by
  induction h with
  | nil => exact .nil
  | @cons p q _ _ hpq _ ih =>
    rw [List.forall_mem_cons] at hps
    exact List.rel_append (hps.1 q hpq) (ih hps.2)
  | insert hs _ ih =>
    rw [List.flatMap_cons, hextra _ hs, List.nil_append]
    exact ih hps

end Padded

namespace Rewritten

variable {E : Edits}

lemma refl (p : Part) : Rewritten E p p := by
  induction p using children_induction with
  | step p ih => exact .keep rfl (.refl ih)

section Expressions

variable {e e' : Expr} (h : Rewritten E (expr e) (expr e'))
include h

lemma root_eq : (expr e).root = (expr e').root := by
  cases h with
  | keep hroot _ => exact hroot
  | assignment _ _ _ => rfl

lemma row (hne : ∀ span operator, (expr e).root ≠ .assignment span operator) :
    Padded E.extra (Rewritten E) (expr e).children (expr e').children := by
  cases h with
  | keep _ hrow => exact hrow
  | assignment _ _ _ => exact (hne _ _ rfl).elim

lemma bare : Rewritten E (expr e.bare) (expr e'.bare) := by
  induction e using Expr.bare.induct generalizing e' with
  | case1 span inner ih =>
    obtain ⟨inner', rfl⟩ := of_root_parenthesized h.root_eq.symm
    rw [Expr.bare, Expr.bare]
    exact ih (h.row fun _ _ hroot => by cases hroot).of_singleton
  | case2 e he =>
    have hroot : ∀ span, (expr e).root ≠ .parenthesized span := by
      intro span hs
      obtain ⟨inner, rfl⟩ := of_root_parenthesized hs
      exact he span inner rfl
    rw [bare_eq_self hroot, bare_eq_self (h.root_eq ▸ hroot)]
    exact h

lemma truthy? : e.truthy? = e'.truthy? := by
  rw [truthy?_eq, truthy?_eq, h.bare.root_eq]

lemma staticString? : e.staticString? = e'.staticString? := by
  rw [staticString?_eq, staticString?_eq, ← h.bare.root_eq]
  cases hroot : (expr e.bare).root with
  | template span chunks =>
    -- a template has no statements in it that are not inside its substitutions
    obtain ⟨substitutions, hb⟩ := of_root_template (h.bare.root_eq ▸ hroot)
    have hrow := h.bare.row fun _ _ ha => by
      rw [hroot] at ha
      cases ha
    have hparts := hrow.forall₂ (by simp [hb, children, stmt?])
    have hempty : (expr e.bare).children.isEmpty = (expr e'.bare).children.isEmpty := by
      rw [Bool.eq_iff_iff, List.isEmpty_iff_length_eq_zero, List.isEmpty_iff_length_eq_zero,
        hparts.length_eq]
    rw [hempty]
  | _ => rfl

lemma isModuleExports : e.isModuleExports = e'.isModuleExports := by
  rw [Bool.eq_iff_iff, Expr.isModuleExports_iff, Expr.isModuleExports_iff]
  constructor
  · rintro ⟨span, span', rfl⟩
    obtain ⟨object, rfl⟩ := of_root_member h.root_eq.symm
    have hobject := (h.row fun _ _ hroot => by cases hroot).of_singleton
    exact ⟨span, span', by rw [of_root_identifier hobject.root_eq.symm]⟩
  · rintro ⟨span, span', rfl⟩
    obtain ⟨object, rfl⟩ := of_root_member h.root_eq
    have hobject := (h.row fun _ _ hroot => by cases hroot).of_singleton
    exact ⟨span, span', by rw [of_root_identifier hobject.root_eq]⟩

end Expressions

lemma key_rewritten {k k' : Key} (h : Rewritten E (Part.key k) (Part.key k')) :
    k.Rewritten E k' := by
  cases h with
  | key hk => exact .inr hk
  | keep hroot hrow =>
    apply Or.inl
    cases k with
    | word span name =>
      cases k' with
      | word span' name' =>
        cases hroot
        exact ⟨rfl, rfl⟩
      | _ => cases hroot
    | hidden span name =>
      cases k' with
      | hidden span' name' =>
        cases hroot
        exact ⟨rfl, rfl⟩
      | _ => cases hroot
    | expr value =>
      cases k' with
      | expr value' =>
        have hv := hrow.of_singleton.root_eq
        exact ⟨by rw [name?_eq, name?_eq, hv], span_eq_of_root_eq hv⟩
      | _ => cases hroot

end Rewritten

end Part

section Harmless

open ExportLint.Part

variable {E : Edits} (hE : E.Harmless)
include hE

lemma Edits.Harmless.keys : Key.Lookalike (Key.Rewritten E) where
  spelled h name hname := by
    rcases h with h | h
    · exact h.spelled name
    · exact hE.spelled h name hname

lemma Part.Rewritten.entry_like {e e' : Entry} (h : Part.Rewritten E (.entry e) (.entry e')) :
    e.Like (Key.Rewritten E) (Expr.Rewritten E) e' := by
  cases h with
  | property hk hv hw => exact .property hk.key_rewritten ⟨_, hv, hw⟩
  | keep hroot hrow =>
    cases e with
    | property span k value =>
      cases e' with
      | property span' k' value' =>
        cases hroot
        cases hrow with
        | cons hk hrest =>
          exact .property hk.key_rewritten ⟨_, hrest.of_singleton, hE.value_refl _⟩
      | _ => cases hroot
    | spread span argument =>
      cases e' with
      | spread span' argument' =>
        cases hroot
        exact .spread
      | _ => cases hroot

lemma Part.Rewritten.object? {e e' : Expr} (h : Part.Rewritten E (.expr e) (.expr e')) :
    Option.Rel (ObjectLiteral.Like (Key.Rewritten E) (Expr.Rewritten E)) e.object? e'.object? := by
  by_cases hobject : ∃ span, (Part.expr e.bare).root = .object span
  · obtain ⟨span, hroot⟩ := hobject
    obtain ⟨entries, hb⟩ := of_root_object hroot
    obtain ⟨entries', hb'⟩ := of_root_object (h.bare.root_eq ▸ hroot)
    have hrow := h.bare.row fun _ _ ha => by
      rw [hroot] at ha
      cases ha
    have hparts := hrow.forall₂ (by simp [hb', children, stmt?])
    rw [hb, hb', children, children, List.forall₂_map_left_iff, List.forall₂_map_right_iff]
      at hparts
    rw [Expr.object?, Expr.object?, hb, hb']
    cases hparts with
    | nil => exact .none
    | cons he hes => exact .some (.cons (he.entry_like hE) (hes.imp fun _ _ h => h.entry_like hE))
  · have hroot : ∀ span, (Part.expr e.bare).root ≠ .object span := not_exists.mp hobject
    rw [object?_eq_none hroot, object?_eq_none (h.bare.root_eq ▸ hroot)]
    exact .none

lemma Edits.Harmless.values : Expr.Lookalike (Key.Rewritten E) (Expr.Rewritten E) where
  text := by
    rintro e w ⟨e', h, hw⟩
    rw [h.staticString?, hE.text hw]
  object := by
    rintro e w ⟨e', h, hw⟩
    rw [← hE.object hw]
    exact h.object? hE

end Harmless

lemma Expr.Rewritten.truthy? {E : Edits} (hE : ∀ e w, E.value e w → e.truthy? = w.truthy?)
    {e w : Expr} (h : e.Rewritten E w) : e.truthy? = w.truthy? := by
  obtain ⟨e', h, hw⟩ := h
  rw [h.truthy?, hE _ _ hw]

/-! ### Statements and their exports -/

namespace Stmt

/-- The expression behind `export default` or behind an assignment to `module.exports`, whatever it
is. -/
def offered? : Stmt → Option Expr
  | exportDefault _ (.expr value) => some value
  | expression _ (.assignment _ _ target value) =>
    if target.isModuleExports then some value else none
  | _ => none

/-- That only object literals are taken from an assignment makes no difference. -/
lemma component?_eq_offered (s : Stmt) :
    s.component? = (s.offered?.bind Expr.object?).map Component.mk := by
  cases s with
  | expression span value =>
    cases value with
    | assignment assigned operator target value =>
      rw [component?, exported?, offered?]
      cases target.isModuleExports with
      | false => rfl
      | true => cases h : value.object? <;> simp [h]
    | _ => rfl
  | exportDefault span exported => cases exported <;> rfl
  | compound span parts => rfl

lemma offered?_expression {span : Span} {value : Expr}
    (h : ∀ assigned operator, (Part.expr value).root ≠ .assignment assigned operator) :
    (expression span value).offered? = none := by
  cases value with
  | assignment assigned operator target value => exact (h assigned operator rfl).elim
  | _ => rfl

end Stmt

/-- Exports of components that are alike, by statements in the same place. -/
structure Export.Like (K : Key → Key → Prop) (R : Expr → Expr → Prop) (x y : Span × Component) :
    Prop where
  span : x.1 = y.1
  object : x.2.object.Like K R y.2.object

namespace Part

variable {E : Edits}

lemma Rewritten.isSome_stmt? {p q : Part} (h : Rewritten E p q) :
    p.stmt?.isSome = q.stmt?.isSome := by
  cases h with
  | keep hroot _ => rw [← isStatement_root, ← isStatement_root, hroot]
  | _ => rfl

lemma exports_assignment (assigned : Span) (operator : String) (target value : Expr) :
    (expr (.assignment assigned operator target value)).exports =
      (expr target).exports ++ (expr value).exports := by
  rw [exports_eq]
  simp [stmt?, children]

lemma exports_of_isModuleExports {target : Expr} (h : target.isModuleExports) :
    (expr target).exports = [] := by
  obtain ⟨span, span', rfl⟩ := Expr.isModuleExports_iff.mp h
  simp [exports_eq, stmt?, children]

lemma forall₂_toList {S : Span × Component → Span × Component → Prop}
    {a b : Option (Span × Component)} (h : Option.Rel S a b) :
    List.Forall₂ S a.toList b.toList := by
  cases h with
  | none => exact .nil
  | some hxy => exact .cons hxy .nil

namespace Rewritten

section Statements

variable (hE : ∀ e, E.value e e)
include hE

lemma offered?_expression {span : Span} {value value' : Expr}
    (h : Rewritten E (expr value) (expr value')) :
    Option.Rel (Expr.Rewritten E) (Stmt.expression span value).offered?
      (Stmt.expression span value').offered? := by
  cases h with
  | assignment ht hv hw =>
    rw [Stmt.offered?, Stmt.offered?, ht.isModuleExports]
    split
    · exact .some ⟨_, hv, hw⟩
    · exact .none
  | keep hroot hrow =>
    by_cases hassign : ∃ assigned operator, (expr value).root = .assignment assigned operator
    · obtain ⟨assigned, operator, ha⟩ := hassign
      obtain ⟨target, right, rfl⟩ := of_root_assignment ha
      obtain ⟨target', right', rfl⟩ := of_root_assignment (hroot ▸ ha)
      cases hrow with
      | cons ht hrest =>
        rw [Stmt.offered?, Stmt.offered?, ht.isModuleExports]
        split
        · exact .some ⟨_, hrest.of_singleton, hE _⟩
        · exact .none
    · have ha : ∀ assigned operator, (expr value).root ≠ .assignment assigned operator :=
        fun assigned operator h => hassign ⟨assigned, operator, h⟩
      rw [Stmt.offered?_expression ha, Stmt.offered?_expression (hroot ▸ ha)]
      exact .none

lemma offered? {s t : Stmt} (h : Rewritten E (stmt s) (stmt t)) :
    s.span = t.span ∧ Option.Rel (Expr.Rewritten E) s.offered? t.offered? := by
  cases h with
  | exportDefault hv hw => exact ⟨rfl, .some ⟨_, hv, hw⟩⟩
  | form _ htarget hv =>
    rw [Stmt.offered?, Stmt.offered?, if_pos htarget]
    exact ⟨rfl, .some ⟨_, hv, hE _⟩⟩
  | keep hroot hrow =>
    cases s with
    | expression span value =>
      cases t with
      | expression span' value' =>
        cases hroot
        exact ⟨rfl, offered?_expression hE hrow.of_singleton⟩
      | _ => cases hroot
    | exportDefault span exported =>
      cases t with
      | exportDefault span' exported' =>
        cases hroot
        have hpart : Rewritten E exported.part exported'.part := hrow.of_singleton
        cases exported with
        | expr value =>
          cases exported' with
          | expr value' => exact ⟨rfl, .some ⟨_, hpart, hE _⟩⟩
          | stmt s' => cases hpart.isSome_stmt?
        | stmt s =>
          cases exported' with
          | expr value' => cases hpart.isSome_stmt?
          | stmt s' => exact ⟨rfl, .none⟩
      | _ => cases hroot
    | compound span parts =>
      cases t with
      | compound span' parts' =>
        cases hroot
        exact ⟨rfl, .none⟩
      | _ => cases hroot

end Statements

section Exports

variable (hE : E.Harmless)
include hE

lemma shipped? {s t : Stmt} (h : Rewritten E (stmt s) (stmt t)) :
    Option.Rel (Export.Like (Key.Rewritten E) (Expr.Rewritten E)) s.shipped? t.shipped? := by
  obtain ⟨hspan, hoffered⟩ := h.offered? hE.value_refl
  rw [Stmt.shipped?, Stmt.shipped?, Stmt.component?_eq_offered, Stmt.component?_eq_offered]
  rcases optionRel_cases hoffered with ⟨hnone, hnone'⟩ | ⟨e, e', he, he', hlike⟩
  · rw [hnone, hnone']
    exact .none
  · rw [he, he', Option.bind_some, Option.bind_some]
    rcases optionRel_cases (hE.values.object hlike) with ⟨hnone, hnone'⟩ | ⟨o, o', ho, ho', hlike⟩
    · rw [hnone, hnone']
      exact .none
    · rw [ho, ho']
      exact .some ⟨hspan, hlike⟩

lemma own {p q : Part} (h : Rewritten E p q) :
    Option.Rel (Export.Like (Key.Rewritten E) (Expr.Rewritten E)) (p.stmt?.bind Stmt.shipped?)
      (q.stmt?.bind Stmt.shipped?) := by
  have hstmt := h.isSome_stmt?
  cases p with
  | stmt s =>
    cases q with
    | stmt t => exact h.shipped? hE
    | _ => cases hstmt
  | _ =>
    cases q with
    | stmt t => cases hstmt
    | _ => exact .none

lemma exports {p q : Part} (h : Rewritten E p q) :
    List.Forall₂ (Export.Like (Key.Rewritten E) (Expr.Rewritten E)) p.exports q.exports := by
  induction p using children_induction generalizing q with
  | step p ih =>
    rw [exports_eq, exports_eq]
    apply List.rel_append (forall₂_toList (h.own hE))
    cases h with
    | keep _ hrow => exact hrow.exports (fun _ => hE.extra_exports) fun c hc _ => ih c hc
    | key hk =>
      obtain ⟨hnil, hnil'⟩ := hE.key_exports hk
      rw [exports_eq] at hnil hnil'
      rw [(List.append_eq_nil_iff.mp hnil).2, (List.append_eq_nil_iff.mp hnil').2]
      exact .nil
    | property hk hv hw =>
      simp only [children, List.flatMap_cons, List.flatMap_nil, List.append_nil,
        ← hE.value_exports hw]
      exact List.rel_append (ih _ (by simp [children]) hk) (ih _ (by simp [children]) hv)
    | assignment ht hv hw =>
      simp only [children, List.flatMap_cons, List.flatMap_nil, List.append_nil,
        ← hE.value_exports hw]
      exact List.rel_append (ih _ (by simp [children]) ht) (ih _ (by simp [children]) hv)
    | exportDefault hv hw =>
      simp only [children, Node.part, List.flatMap_cons, List.flatMap_nil, List.append_nil,
        ← hE.value_exports hw]
      exact ih _ (by simp [children, Node.part]) hv
    | @form span assigned operator target v v' _ htarget hv =>
      have hassign : Rewritten E (expr (.assignment assigned operator target v))
          (expr (.assignment assigned operator target v')) :=
        .assignment (.refl _) hv (hE.value_refl _)
      have hinner := ih _ List.mem_cons_self hassign
      -- the target has no exports, so those of the assignments are those of the values
      rw [exports_assignment, exports_assignment, exports_of_isModuleExports htarget] at hinner
      simpa [children, Node.part, exports_assignment, exports_of_isModuleExports htarget]
        using hinner

end Exports

end Rewritten

end Part

lemma Program.Rewritten.exports {E : Edits} (hE : E.Harmless) {p q : Program}
    (h : p.Rewritten E q) :
    List.Forall₂ (Export.Like (Key.Rewritten E) (Expr.Rewritten E)) p.exports q.exports := by
  rw [Program.exports_eq, Program.exports_eq]
  exact Part.Padded.exports h (fun _ => hE.extra_exports) fun _ _ _ h => h.exports hE

/-! ### Findings -/

/-- Findings of one rule, in the same place, about two components. -/
structure Finding.Like (K : Key → Key → Prop) (source : String) (c c' : Component)
    (f f' : Finding) : Prop where
  rule : f.rule = f'.rule
  severity : f.severity = f'.severity
  complaint : Complaint.Like K f.rule source c c' f.complaint f'.complaint

section Findings

variable {K : Key → Key → Prop} {R : Expr → Expr → Prop} {rules : RuleSet}
variable (hK : Key.Lookalike K) (hR : Expr.Lookalike K R)
variable (htruth : ∀ entry ∈ rules.entries, entry.1 = .defaulted →
  ∀ e e', R e e' → e.truthy? = e'.truthy?)
include hK hR htruth

lemma RuleSet.examine_like (source : String) {x y : Span × Component} (h : Export.Like K R x y) :
    List.Forall₂ (Finding.Like K source x.2 y.2) (rules.examine source x)
      (rules.examine source y) := by
  have hentries : List.Forall₂ (fun a b => a = b ∧ a ∈ rules.entries) rules.entries rules.entries :=
    List.forall₂_same.mpr fun entry hm => ⟨rfl, hm⟩
  refine List.rel_flatMap hentries ?_
  rintro ⟨rule, severity⟩ _ ⟨rfl, hm⟩
  refine List.rel_map (fun _ _ hx => ⟨rfl, rfl, hx⟩) ?_
  rw [h.span]
  exact Rule.examine_like hK hR h.object rule (htruth _ hm) source y.1

lemma RuleSet.examine_eq (hsame : ∀ k k', K k k' → k.Same k') (source : String)
    {x y : Span × Component} (h : Export.Like K R x y) :
    rules.examine source x = rules.examine source y := by
  rw [← List.forall₂_eq_eq_eq]
  refine (RuleSet.examine_like hK hR htruth source h).imp ?_
  rintro ⟨rule, severity, complaint⟩ ⟨rule', severity', complaint'⟩ ⟨rfl, rfl, hcomplaint⟩
  rw [show complaint = complaint' from hcomplaint.eq_of_same hsame]

end Findings

lemma Run.findings_eq_of_forall₂ {S : Span × Component → Span × Component → Prop} {rules : RuleSet}
    {source : String} {p q : Program} (h : List.Forall₂ S p.exports q.exports)
    (hS : ∀ x y, S x y → rules.examine source x = rules.examine source y) :
    (ofProgram rules source p).findings = (ofProgram rules source q).findings := by
  have hexamine : p.exports.map (rules.examine source) = q.exports.map (rules.examine source) := by
    rw [← List.forall₂_eq_eq_eq]
    exact List.rel_map hS h
  rw [findings_eq_exports, findings_eq_exports, List.flatMap_def, List.flatMap_def, hexamine]

lemma Program.Rewritten.ofProgram_eq {E : Edits} (hE : E.Harmless)
    (hsame : ∀ k k', E.key k k' → k.Same k') (htruth : ∀ e w, E.value e w → e.truthy? = w.truthy?)
    {p q : Program} (h : p.Rewritten E q) (rules : RuleSet) (source : String) :
    Run.ofProgram rules source p = Run.ofProgram rules source q := by
  have hexports := h.exports hE
  have hkeys : ∀ k k', Key.Rewritten E k k' → k.Same k' := fun k k' hk => hk.elim id (hsame k k')
  have hfindings : (Run.ofProgram rules source p).findings =
      (Run.ofProgram rules source q).findings :=
    Run.findings_eq_of_forall₂ hexports fun _ _ => RuleSet.examine_eq hE.keys hE.values
      (fun _ _ _ _ _ => Expr.Rewritten.truthy? htruth) hkeys source
  have hspans : p.exports.map (fun x => Event.resolved x.1) =
      q.exports.map fun x => Event.resolved x.1 := by
    rw [← List.forall₂_eq_eq_eq]
    exact List.rel_map (fun _ _ hxy => congrArg Event.resolved hxy.span) hexports
  have hevents : (Run.ofProgram rules source p).events = (Run.ofProgram rules source q).events := by
    rw [Run.events_eq_exports, Run.events_eq_exports, hspans, hfindings]
  exact congrArg₂ Run.mk hfindings hevents

end ExportLint

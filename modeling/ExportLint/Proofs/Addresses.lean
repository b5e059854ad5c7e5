import ExportLint.Tree.Visit
import Mathlib.Data.List.Basic

/-! Every part of a tree has an address: the positions of the parts on the way to it. Visiting a
tree hands over its statements once each, in the order of their addresses. -/

namespace ExportLint

universe u

inductive Part where
  | stmt (s : Stmt)
  | expr (e : Expr)
  | entry (e : Entry)
  | key (k : Key)

abbrev Address := List Nat

def Node.part : Node → Part
  | .expr value => .expr value
  | .stmt value => .stmt value

namespace Part

/-- The parts that stand directly in a part, in reading order. -/
def children : Part → List Part
  | stmt (.expression _ value) => [expr value]
  | stmt (.exportDefault _ exported) => [exported.part]
  | stmt (.compound _ parts) => parts.map Node.part
  | expr (.identifier _ _) | expr (.string _ _) | expr (.number _ _) | expr (.bigint _ _)
  | expr (.boolean _ _) | expr (.null _) | expr (.regexp _) => []
  | expr (.template _ _ substitutions) => substitutions.map expr
  | expr (.object _ entries) => entries.map entry
  | expr (.assignment _ _ target value) => [expr target, expr value]
  | expr (.member _ object _) => [expr object]
  | expr (.parenthesized _ inner) => [expr inner]
  | expr (.compound _ _ parts) => parts.map Node.part
  | entry (.property _ k value) => [key k, expr value]
  | entry (.spread _ argument) => [expr argument]
  | key (.word _ _) | key (.hidden _ _) => []
  | key (.expr value) => [expr value]

def at? : Part → Address → Option Part
  | p, [] => some p
  | p, i :: a => p.children[i]?.bind (·.at? a)

def rowAt? (ps : List Part) : Address → Option Part
  | [] => none
  | i :: a => ps[i]?.bind (·.at? a)

def stmt? : Part → Option Stmt
  | stmt s => some s
  | _ => none

lemma sizeOf_part (n : Node) : sizeOf n.part = sizeOf n := by
  cases n <;> rfl

lemma sizeOf_lt_of_mem_map_part {c : Part} {parts : List Node} (h : c ∈ parts.map Node.part) :
    sizeOf c < sizeOf parts := by
  obtain ⟨n, hn, rfl⟩ := List.mem_map.mp h
  rw [sizeOf_part]
  exact List.sizeOf_lt_of_mem hn

lemma sizeOf_lt_of_mem_children {p c : Part} (h : c ∈ p.children) : sizeOf c < sizeOf p := by
  cases p with
  | stmt s =>
    cases s with
    | expression span value =>
      obtain rfl := List.mem_singleton.mp h
      simp only [expr.sizeOf_spec, stmt.sizeOf_spec, Stmt.expression.sizeOf_spec]
      omega
    | exportDefault span exported =>
      obtain rfl := List.mem_singleton.mp h
      simp only [sizeOf_part, stmt.sizeOf_spec, Stmt.exportDefault.sizeOf_spec]
      omega
    | compound span parts =>
      have hc := sizeOf_lt_of_mem_map_part h
      simp only [stmt.sizeOf_spec, Stmt.compound.sizeOf_spec]
      omega
  | expr e =>
    cases e with
    | template span chunks substitutions =>
      obtain ⟨e, he, rfl⟩ := List.mem_map.mp h
      have hc := List.sizeOf_lt_of_mem he
      simp only [expr.sizeOf_spec, Expr.template.sizeOf_spec]
      omega
    | object span entries =>
      obtain ⟨e, he, rfl⟩ := List.mem_map.mp h
      have hc := List.sizeOf_lt_of_mem he
      simp only [entry.sizeOf_spec, expr.sizeOf_spec, Expr.object.sizeOf_spec]
      omega
    | assignment span operator target value =>
      have hc : c = expr target ∨ c = expr value := by simpa [children] using h
      rcases hc with rfl | rfl <;>
        simp only [expr.sizeOf_spec, Expr.assignment.sizeOf_spec] <;> omega
    | member span object property =>
      obtain rfl := List.mem_singleton.mp h
      simp only [expr.sizeOf_spec, Expr.member.sizeOf_spec]
      omega
    | parenthesized span inner =>
      obtain rfl := List.mem_singleton.mp h
      simp only [expr.sizeOf_spec, Expr.parenthesized.sizeOf_spec]
      omega
    | compound span form parts =>
      have hc := sizeOf_lt_of_mem_map_part h
      simp only [expr.sizeOf_spec, Expr.compound.sizeOf_spec]
      omega
    | _ => simp [children] at h
  | entry e =>
    cases e with
    | property span k value =>
      have hc : c = key k ∨ c = expr value := by simpa [children] using h
      rcases hc with rfl | rfl <;>
        simp only [key.sizeOf_spec, expr.sizeOf_spec, entry.sizeOf_spec,
          Entry.property.sizeOf_spec] <;> omega
    | spread span argument =>
      obtain rfl := List.mem_singleton.mp h
      simp only [expr.sizeOf_spec, entry.sizeOf_spec, Entry.spread.sizeOf_spec]
      omega
  | key k =>
    cases k with
    | expr value =>
      obtain rfl := List.mem_singleton.mp h
      simp only [expr.sizeOf_spec, key.sizeOf_spec, Key.expr.sizeOf_spec]
      omega
    | _ => simp [children] at h

/-- What holds of a part as soon as it holds of its children holds of every part. -/
@[elab_as_elim]
lemma children_induction {motive : Part → Prop}
    (step : ∀ p, (∀ c ∈ p.children, motive c) → motive p) (p : Part) : motive p :=
  step p fun c _ => children_induction step c
termination_by sizeOf p
decreasing_by exact sizeOf_lt_of_mem_children ‹_›

/-- The addresses in a part, each before those further inside. -/
def addresses (p : Part) : List Address :=
  [] :: p.children.attach.zipIdx.flatMap fun (c, i) => (addresses c.1).map (i :: ·)
termination_by sizeOf p
decreasing_by exact sizeOf_lt_of_mem_children c.2

def statements (p : Part) : List Stmt :=
  p.stmt?.toList ++ p.children.attach.flatMap fun c => statements c.1
termination_by sizeOf p
decreasing_by exact sizeOf_lt_of_mem_children c.2

def rowAddresses (ps : List Part) : List Address :=
  ps.zipIdx.flatMap fun (c, i) => c.addresses.map (i :: ·)

lemma addresses_eq (p : Part) : p.addresses = [] :: rowAddresses p.children := by
  rw [addresses, rowAddresses]
  congr 1
  have h := congrArg (List.flatMap fun (c, i) => c.addresses.map (i :: ·))
    (congrArg List.zipIdx (List.attach_map_subtype_val p.children))
  rw [← h, List.zipIdx_map, List.flatMap_map]
  rfl

lemma statements_eq (p : Part) :
    p.statements = p.stmt?.toList ++ p.children.flatMap statements := by
  rw [statements]
  congr 1
  have h := congrArg (List.flatMap statements) (List.attach_map_subtype_val p.children)
  rw [← h, List.flatMap_map]

lemma cons_mem_rowAddresses_iff (ps : List Part) (i : Nat) (b : Address) :
    i :: b ∈ rowAddresses ps ↔ ∃ c, ps[i]? = some c ∧ b ∈ c.addresses := by
  simp only [rowAddresses, List.mem_flatMap, List.mem_map, Prod.exists, List.cons.injEq,
    List.mem_zipIdx_iff_getElem?]
  constructor
  · rintro ⟨c, _, hc, _, hb, rfl, rfl⟩
    exact ⟨c, hc, hb⟩
  · rintro ⟨c, hc, hb⟩
    exact ⟨c, i, hc, b, hb, rfl, rfl⟩

lemma nil_not_mem_rowAddresses (ps : List Part) : [] ∉ rowAddresses ps := by
  simp [rowAddresses]

lemma mem_addresses_iff (p : Part) (a : Address) : a ∈ p.addresses ↔ (p.at? a).isSome := by
  induction a generalizing p with
  | nil => simp [addresses_eq, at?]
  | cons i b ih =>
    rw [addresses_eq, at?, List.mem_cons, cons_mem_rowAddresses_iff]
    cases p.children[i]? with
    | none => simp
    | some c => simp [ih]

lemma mem_rowAddresses_iff (ps : List Part) (a : Address) :
    a ∈ rowAddresses ps ↔ (rowAt? ps a).isSome := by
  cases a with
  | nil => simp [nil_not_mem_rowAddresses, rowAt?]
  | cons i b =>
    rw [cons_mem_rowAddresses_iff, rowAt?]
    cases ps[i]? with
    | none => simp
    | some c => simp [mem_addresses_iff]

lemma rowAddresses_pairwise {ps : List Part} (h : ∀ c ∈ ps, c.addresses.Pairwise (· < ·)) :
    (rowAddresses ps).Pairwise (· < ·) := by
  rw [rowAddresses, List.pairwise_flatMap]
  constructor
  · rintro ⟨c, i⟩ hc
    have hmem : c ∈ ps := List.mem_of_getElem? (List.mem_zipIdx_iff_getElem?.mp hc)
    rw [List.pairwise_map]
    exact (h c hmem).imp List.cons_lt_cons_self.mpr
  · have hidx : ps.zipIdx.Pairwise fun x y => x.2 < y.2 := by
      rw [← List.pairwise_map (f := Prod.snd) (R := (· < ·)), List.zipIdx_map_snd]
      exact List.pairwise_lt_range'
    refine hidx.imp ?_
    rintro ⟨c, i⟩ ⟨d, j⟩ hij a ha b hb
    obtain ⟨a, -, rfl⟩ := List.mem_map.mp ha
    obtain ⟨b, -, rfl⟩ := List.mem_map.mp hb
    exact List.cons_lt_cons_iff.mpr (Or.inl hij)

lemma addresses_pairwise (p : Part) : p.addresses.Pairwise (· < ·) := by
  induction p using children_induction with
  | step p ih =>
    rw [addresses_eq, List.pairwise_cons]
    refine ⟨?_, rowAddresses_pairwise ih⟩
    intro a ha
    cases a with
    | nil => exact (nil_not_mem_rowAddresses _ ha).elim
    | cons i b => exact List.nil_lt_cons i b

lemma rowStatements_eq {ps : List Part}
    (h : ∀ c ∈ ps, c.statements = c.addresses.filterMap fun a => (c.at? a).bind stmt?) :
    ps.flatMap statements = (rowAddresses ps).filterMap fun a => (rowAt? ps a).bind stmt? := by
  have hfst : ps.flatMap statements = ps.zipIdx.flatMap fun x => x.1.statements := by
    rw [← List.flatMap_map (f := Prod.fst), List.zipIdx_map_fst]
  rw [hfst, rowAddresses, List.filterMap_flatMap]
  apply List.flatMap_congr
  rintro ⟨c, i⟩ hc
  have hi : ps[i]? = some c := List.mem_zipIdx_iff_getElem?.mp hc
  rw [List.filterMap_map, h c (List.mem_of_getElem? hi)]
  apply List.filterMap_congr
  intro b _
  simp [rowAt?, hi]

lemma statements_eq_filterMap (p : Part) :
    p.statements = p.addresses.filterMap fun a => (p.at? a).bind stmt? := by
  induction p using children_induction with
  | step p ih =>
    have hrow : (rowAddresses p.children).filterMap (fun a => (rowAt? p.children a).bind stmt?) =
        (rowAddresses p.children).filterMap fun a => (p.at? a).bind stmt? := by
      apply List.filterMap_congr
      intro a ha
      cases a with
      | nil => exact (nil_not_mem_rowAddresses _ ha).elim
      | cons i b => rfl
    rw [statements_eq, addresses_eq, rowStatements_eq ih, hrow]
    cases hs : p.stmt? <;> simp [at?, hs]

section Visit

variable {σ : Type u} (f : σ → Stmt → σ)

def visit (acc : σ) : Part → σ
  | stmt s => s.visit f acc
  | expr e => e.visit f acc
  | entry e => e.visit f acc
  | key k => k.visit f acc

lemma visit_part (acc : σ) (n : Node) : n.visit f acc = n.part.visit f acc := by
  cases n <;> rw [Node.visit] <;> rfl

lemma visitNodes_eq (acc : σ) (parts : List Node) :
    visitNodes f acc parts = (parts.map Node.part).foldl (visit f) acc := by
  induction parts generalizing acc with
  | nil => rfl
  | cons n parts ih => rw [visitNodes, ih, visit_part]; rfl

lemma visitExprs_eq (acc : σ) (es : List Expr) :
    visitExprs f acc es = (es.map expr).foldl (visit f) acc := by
  induction es generalizing acc with
  | nil => rfl
  | cons e es ih => rw [visitExprs, ih]; rfl

lemma visitEntries_eq (acc : σ) (es : List Entry) :
    visitEntries f acc es = (es.map entry).foldl (visit f) acc := by
  induction es generalizing acc with
  | nil => rfl
  | cons e es ih => rw [visitEntries, ih]; rfl

lemma visit_eq (acc : σ) (p : Part) :
    p.visit f acc = p.children.foldl (visit f) (p.stmt?.toList.foldl f acc) := by
  cases p with
  | stmt s =>
    cases s with
    | expression span value => rw [visit, Stmt.visit]; rfl
    | exportDefault span exported => rw [visit, Stmt.visit, visit_part]; rfl
    | compound span parts => rw [visit, Stmt.visit, visitNodes_eq]; rfl
  | expr e =>
    cases e with
    | template span chunks substitutions => rw [visit, Expr.visit, visitExprs_eq]; rfl
    | object span entries => rw [visit, Expr.visit, visitEntries_eq]; rfl
    | compound span form parts => rw [visit, Expr.visit, visitNodes_eq]; rfl
    | _ => rw [visit, Expr.visit]; rfl
  | entry e => cases e <;> rw [visit, Entry.visit] <;> rfl
  | key k => cases k <;> rw [visit, Key.visit] <;> rfl

lemma foldl_visit_eq {ps : List Part}
    (h : ∀ c ∈ ps, ∀ acc, c.visit f acc = c.statements.foldl f acc) (acc : σ) :
    ps.foldl (visit f) acc = (ps.flatMap statements).foldl f acc := by
  induction ps generalizing acc with
  | nil => rfl
  | cons c ps ih =>
    have hc : ∀ d ∈ ps, ∀ acc, d.visit f acc = d.statements.foldl f acc :=
      fun d hd => h d (List.mem_cons_of_mem c hd)
    rw [List.foldl_cons, h c List.mem_cons_self, ih hc, List.flatMap_cons, List.foldl_append]

lemma visit_eq_foldl (p : Part) (acc : σ) : p.visit f acc = p.statements.foldl f acc := by
  induction p using children_induction generalizing acc with
  | step p ih => rw [visit_eq, foldl_visit_eq f ih, statements_eq, List.foldl_append]

end Visit

end Part

namespace Program

def stmtAt? (program : Program) (a : Address) : Option Stmt :=
  (Part.rowAt? (program.map .stmt) a).bind Part.stmt?

def addresses (program : Program) : List Address :=
  Part.rowAddresses (program.map .stmt)

def statements (program : Program) : List Stmt :=
  (program.map Part.stmt).flatMap Part.statements

lemma statements_append (p q : Program) :
    Program.statements (p ++ q) = p.statements ++ q.statements := by
  simp [statements]

lemma addresses_pairwise (program : Program) : program.addresses.Pairwise (· < ·) :=
  Part.rowAddresses_pairwise fun c _ => c.addresses_pairwise

lemma mem_addresses_of_stmtAt? {program : Program} {a : Address} {s : Stmt}
    (h : program.stmtAt? a = some s) : a ∈ program.addresses := by
  obtain ⟨p, hp, -⟩ := Option.bind_eq_some_iff.mp h
  rw [addresses, Part.mem_rowAddresses_iff, hp]
  rfl

lemma statements_eq_filterMap (program : Program) :
    program.statements = program.addresses.filterMap program.stmtAt? :=
  Part.rowStatements_eq fun c _ => c.statements_eq_filterMap

lemma mem_statements_iff {program : Program} {s : Stmt} :
    s ∈ program.statements ↔ ∃ a, program.stmtAt? a = some s := by
  rw [statements_eq_filterMap, List.mem_filterMap]
  constructor
  · rintro ⟨a, -, ha⟩
    exact ⟨a, ha⟩
  · rintro ⟨a, ha⟩
    exact ⟨a, mem_addresses_of_stmtAt? ha, ha⟩

lemma visit_eq_foldl {σ : Type u} (f : σ → Stmt → σ) (acc : σ) (program : Program) :
    program.visit f acc = program.statements.foldl f acc := by
  have h := Part.foldl_visit_eq f (fun c (_ : c ∈ program.map Part.stmt) => c.visit_eq_foldl f) acc
  rw [List.foldl_map] at h
  exact h

end Program

end ExportLint

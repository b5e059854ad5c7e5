import ExportLint.Component
import ExportLint.Proofs.Addresses

/-! A part is its root with the parts in it. What an expression shows, whether of a key or of a
value, it shows by its root. -/

namespace ExportLint.Part

/-- What a part is, the parts in it apart. -/
inductive Root where
  | expression (span : Span)
  | exportDefault (span : Span)
  | statement (span : Span)
  | identifier (span : Span) (name : String)
  | string (span : Span) (value : String)
  | number (span : Span) (value : Numeral)
  | bigint (span : Span) (digits : String)
  | boolean (span : Span) (value : Bool)
  | null (span : Span)
  | regexp (span : Span)
  | template (span : Span) (chunks : List Chunk)
  | object (span : Span)
  | assignment (span : Span) (operator : String)
  | member (span : Span) (property : String)
  | parenthesized (span : Span)
  | compound (span : Span) (form : Form)
  | property (span : Span)
  | spread (span : Span)
  | word (span : Span) (name : String)
  | hidden (span : Span) (name : String)
  | key

def root : Part → Root
  | stmt (.expression span _) => .expression span
  | stmt (.exportDefault span _) => .exportDefault span
  | stmt (.compound span _) => .statement span
  | expr (.identifier span name) => .identifier span name
  | expr (.string span value) => .string span value
  | expr (.number span value) => .number span value
  | expr (.bigint span digits) => .bigint span digits
  | expr (.boolean span value) => .boolean span value
  | expr (.null span) => .null span
  | expr (.regexp span) => .regexp span
  | expr (.template span chunks _) => .template span chunks
  | expr (.object span _) => .object span
  | expr (.assignment span operator _ _) => .assignment span operator
  | expr (.member span _ property) => .member span property
  | expr (.parenthesized span _) => .parenthesized span
  | expr (.compound span form _) => .compound span form
  | entry (.property span _ _) => .property span
  | entry (.spread span _) => .spread span
  | key (.word span name) => .word span name
  | key (.hidden span name) => .hidden span name
  | key (.expr _) => .key

namespace Root

def isStatement : Root → Bool
  | expression _ | exportDefault _ | statement _ => true
  | _ => false

def name? : Root → Option String
  | identifier _ name => some name
  | string _ value => some value
  | _ => none

/-- The text of a value, given whether it has parts. -/
def text? (hasParts : Bool) : Root → Option String
  | string _ value => some value
  | template _ (chunk :: _) => if hasParts then none else some (chunk.cooked?.getD chunk.raw)
  | _ => none

def truth? : Root → Option Bool
  | boolean _ value => some value
  | string _ value => some (!value.isEmpty)
  | number _ value => some value.truthy
  | bigint _ digits => some (digits != "0")
  | null _ => some false
  | regexp _ => some true
  | _ => none

end Root

section Shape

variable {e : Expr} {span : Span}

lemma of_root_template {chunks : List Chunk} (h : (expr e).root = .template span chunks) :
    ∃ substitutions, e = .template span chunks substitutions := by
  cases e <;> cases h
  exact ⟨_, rfl⟩

lemma of_root_object (h : (expr e).root = .object span) : ∃ entries, e = .object span entries := by
  cases e <;> cases h
  exact ⟨_, rfl⟩

lemma of_root_assignment {operator : String} (h : (expr e).root = .assignment span operator) :
    ∃ target value, e = .assignment span operator target value := by
  cases e <;> cases h
  exact ⟨_, _, rfl⟩

lemma of_root_member {property : String} (h : (expr e).root = .member span property) :
    ∃ object, e = .member span object property := by
  cases e <;> cases h
  exact ⟨_, rfl⟩

lemma of_root_identifier {name : String} (h : (expr e).root = .identifier span name) :
    e = .identifier span name := by
  cases e <;> cases h
  rfl

lemma of_root_parenthesized (h : (expr e).root = .parenthesized span) :
    ∃ inner, e = .parenthesized span inner := by
  cases e <;> cases h
  exact ⟨_, rfl⟩

end Shape

lemma isStatement_root (p : Part) : p.root.isStatement = p.stmt?.isSome := by
  cases p with
  | stmt s => cases s <;> rfl
  | expr e => cases e <;> rfl
  | entry e => cases e <;> rfl
  | key k => cases k <;> rfl

lemma span_eq_of_root_eq {e e' : Expr} (h : (expr e).root = (expr e').root) : e.span = e'.span := by
  cases e <;> cases e' <;> cases h <;> rfl

lemma name?_eq (e : Expr) : Key.name? (.expr e) = (expr e).root.name? := by
  cases e <;> rfl

lemma staticString?_eq (e : Expr) :
    e.staticString? = (expr e.bare).root.text? !(expr e.bare).children.isEmpty := by
  unfold Expr.staticString?
  cases e.bare with
  | template span chunks substitutions => cases chunks <;> cases substitutions <;> rfl
  | _ => rfl

lemma truthy?_eq (e : Expr) : e.truthy? = (expr e.bare).root.truth? := by
  unfold Expr.truthy?
  cases e.bare <;> rfl

lemma object?_eq_none {e : Expr} (h : ∀ span, (expr e.bare).root ≠ .object span) :
    e.object? = none := by
  unfold Expr.object?
  cases hb : e.bare with
  | object span entries => exact (h span (by rw [hb]; rfl)).elim
  | _ => rfl

lemma bare_eq_self {e : Expr} (h : ∀ span, (expr e).root ≠ .parenthesized span) : e.bare = e := by
  cases e with
  | parenthesized span inner => exact (h span rfl).elim
  | _ => rw [Expr.bare]; simp

end ExportLint.Part

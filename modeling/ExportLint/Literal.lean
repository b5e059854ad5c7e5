import ExportLint.Tree

/-!
What the source alone says about the value of an expression. Parentheses never matter.
-/

namespace ExportLint.Expr

/-- The text of a string literal, or of a template without substitutions. A template whose escapes
are not valid stands for its raw text. -/
def staticString? (e : Expr) : Option String :=
  match e.bare with
  | .string _ value => some value
  | .template _ (chunk :: _) [] => some (chunk.cooked?.getD chunk.raw)
  | _ => none

/-- Whether a literal counts as true in a condition; unknown for what is not a literal. -/
def truthy? (e : Expr) : Option Bool :=
  match e.bare with
  | .boolean _ value => some value
  | .string _ value => some (!value.isEmpty)
  | .number _ value => some value.truthy
  | .bigint _ digits => some (digits != "0")
  | .null _ => some false
  | .regexp _ => some true
  | _ => none

end ExportLint.Expr

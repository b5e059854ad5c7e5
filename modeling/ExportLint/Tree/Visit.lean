import ExportLint.Tree

/-!
Visiting the statements of a tree: each statement before those inside it, and otherwise in reading
order. Statements stand inside expressions too, in the bodies of functions.
-/

namespace ExportLint

universe u

variable {σ : Type u} (f : σ → Stmt → σ)

mutual

def Stmt.visit (acc : σ) : Stmt → σ
  | .expression span value => value.visit (f acc (.expression span value))
  | .exportDefault span exported => exported.visit (f acc (.exportDefault span exported))
  | .compound span parts => visitNodes (f acc (.compound span parts)) parts

def Expr.visit (acc : σ) : Expr → σ
  | .identifier _ _ | .string _ _ | .number _ _ | .bigint _ _ | .boolean _ _ | .null _
  | .regexp _ => acc
  | .template _ _ substitutions => visitExprs acc substitutions
  | .object _ entries => visitEntries acc entries
  | .assignment _ _ target value => value.visit (target.visit acc)
  | .member _ object _ => object.visit acc
  | .parenthesized _ inner => inner.visit acc
  | .compound _ _ parts => visitNodes acc parts

def Entry.visit (acc : σ) : Entry → σ
  | .property _ key value => value.visit (key.visit acc)
  | .spread _ argument => argument.visit acc

def Key.visit (acc : σ) : Key → σ
  | .word _ _ | .hidden _ _ => acc
  | .expr value => value.visit acc

def Node.visit (acc : σ) : Node → σ
  | .expr value => value.visit acc
  | .stmt value => value.visit acc

def visitExprs (acc : σ) : List Expr → σ
  | [] => acc
  | e :: es => visitExprs (e.visit acc) es

def visitEntries (acc : σ) : List Entry → σ
  | [] => acc
  | e :: es => visitEntries (e.visit acc) es

def visitNodes (acc : σ) : List Node → σ
  | [] => acc
  | n :: ns => visitNodes (n.visit acc) ns

end

def Program.visit (acc : σ) (program : Program) : σ :=
  program.foldl (Stmt.visit f) acc

end ExportLint

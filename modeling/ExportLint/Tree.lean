import ExportLint.Text.Span
import ExportLint.Numeral

/-!
The tree of a module. Expressions that carry a value a rule can read have a constructor of their
own; every other expression and statement is a `compound` of its parts in reading order.
-/

namespace ExportLint

/-- A stretch of template text: as written, and with its escapes resolved if they are valid. -/
structure Chunk where
  span : Span
  raw : String
  cooked? : Option String
deriving DecidableEq, Repr, Inhabited

/-- What a compound expression is, as far as it decides where it can stand and whether it can be
assigned to. -/
inductive Form where
  /-- an array literal -/
  | array
  /-- an empty place in an array literal -/
  | hole
  /-- an expression behind three points -/
  | spread
  /-- an access `a[b]` or `a.#b` -/
  | lookup
  /-- a chain that holds a `?.` -/
  | chain
  /-- an expression with a type before or behind it -/
  | typed
  /-- the expressions in a type -/
  | type
  /-- an expression with type arguments behind it -/
  | instantiated
  /-- an operand behind an operator that is a word or a sign -/
  | prefixed
  /-- operands of `&&` or `||` -/
  | logical
  /-- operands of `??` -/
  | coalesced
  /-- a test `#a in b` -/
  | hiddenTest
  /-- a call of `import` -/
  | importCall
  /-- anything else -/
  | other
deriving DecidableEq, Repr, Inhabited

mutual

inductive Expr where
  | identifier (span : Span) (name : String)
  | string (span : Span) (value : String)
  | number (span : Span) (value : Numeral)
  /-- An integer literal `123n`; `digits` is its value in decimal. -/
  | bigint (span : Span) (digits : String)
  | boolean (span : Span) (value : Bool)
  | null (span : Span)
  | regexp (span : Span)
  | template (span : Span) (chunks : List Chunk) (substitutions : List Expr)
  | object (span : Span) (entries : List Entry)
  | assignment (span : Span) (operator : String) (target value : Expr)
  /-- A member access `object.property`. -/
  | member (span : Span) (object : Expr) (property : String)
  | parenthesized (span : Span) (inner : Expr)
  | compound (span : Span) (form : Form) (parts : List Node)

inductive Entry where
  | property (span : Span) (key : Key) (value : Expr)
  | spread (span : Span) (argument : Expr)

inductive Key where
  /-- A bare word. -/
  | word (span : Span) (name : String)
  /-- A name written `#name`. -/
  | hidden (span : Span) (name : String)
  /-- A literal, or an expression in brackets. -/
  | expr (value : Expr)

inductive Stmt where
  | expression (span : Span) (value : Expr)
  /-- The default export of a module: an expression or a declaration. -/
  | exportDefault (span : Span) (exported : Node)
  | compound (span : Span) (parts : List Node)

inductive Node where
  | expr (value : Expr)
  | stmt (value : Stmt)

end

instance : Inhabited Expr := ⟨.null default⟩
instance : Inhabited Stmt := ⟨.compound default []⟩
instance : Inhabited Node := ⟨.expr default⟩
instance : Inhabited Key := ⟨.word default ""⟩
instance : Inhabited Entry := ⟨.spread default default⟩

abbrev Program := List Stmt

namespace Expr

def span : Expr → Span
  | identifier s _ | string s _ | number s _ | bigint s _ | boolean s _ | null s | regexp s
  | template s _ _ | object s _ | assignment s _ _ _ | member s _ _ | parenthesized s _
  | compound s _ _ => s

def bare : Expr → Expr
  | parenthesized _ inner => inner.bare
  | e => e

end Expr

namespace Key

def span : Key → Span
  | word s _ | hidden s _ => s
  | expr e => e.span

end Key

namespace Entry

def span : Entry → Span
  | property s _ _ | spread s _ => s

end Entry

namespace Stmt

def span : Stmt → Span
  | expression s _ | exportDefault s _ | compound s _ => s

end Stmt

end ExportLint

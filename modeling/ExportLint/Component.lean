import ExportLint.Literal
import ExportLint.Lookup

/-!
Components: object literals that a module exports. A component describes its inputs as props, in an
object literal of its own.
-/

namespace ExportLint

structure Component where
  object : ObjectLiteral
deriving Inhabited

/-- A prop that is described in place: its property and the object literal that describes it. -/
structure PropEntry where
  property : Property
  definition : ObjectLiteral
deriving Inhabited

namespace PropEntry

/-- The prop of a property. A property whose value is no object literal, or refers to a definition
elsewhere, describes nothing in place. -/
def ofProperty? (p : Property) : Option PropEntry := do
  let definition ← p.value.object?
  if definition.contains "propDefinition" then none else some ⟨p, definition⟩

/-- The name of a prop in a message: its name or, failing that, its key as written. -/
def displayName (p : PropEntry) (source : String) : String :=
  p.property.key.name?.getD (p.property.key.span.text source)

end PropEntry

namespace Component

def find? (c : Component) (name : String) : Option Property :=
  c.object.find? name

def contains (c : Component) (name : String) : Bool :=
  c.object.contains name

def props (c : Component) : List PropEntry :=
  match Entry.propsHolder? c.object.entries >>= (·.value.object?) with
  | some holder => (holder.entries.filterMap Entry.property?).filterMap PropEntry.ofProperty?
  | none => []

/-- The property `name` of a component that is a source. -/
def sourceProperty? (c : Component) (name : String) : Option Property := do
  let type ← c.find? "type"
  if type.value.staticString? = some "source" then c.find? name else none

end Component

namespace Expr

/-- Whether an expression is `module.exports`. -/
def isModuleExports : Expr → Bool
  | .member _ (.identifier _ "module") "exports" => true
  | _ => false

end Expr

namespace Stmt

/-- The expression a statement exports: what follows `export default`, or an object literal that is
assigned to `module.exports`. -/
def exported? : Stmt → Option Expr
  | exportDefault _ (.expr value) => some value
  | expression _ (.assignment _ _ target value) =>
    if target.isModuleExports && value.object?.isSome then some value else none
  | _ => none

def component? (s : Stmt) : Option Component :=
  (s.exported? >>= Expr.object?).map Component.mk

end Stmt

end ExportLint

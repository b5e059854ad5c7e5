import ExportLint.Parser.State

/-!
The parsers that call one another in a circle. Every other parser takes them as a parameter; the
circle is closed at the end, once all are defined.
-/

namespace ExportLint.Parser

structure Pattern where
  nodes : List Node
  names : List String
  /-- Whether the pattern is just a name. -/
  isName : Bool
deriving Inhabited

inductive TypeForm where
  | array
  | tuple
  /-- a type with a question mark behind it -/
  | optional
  | other
deriving DecidableEq, Repr, Inhabited

/-- A type. Rules read nothing of it but the expressions in it. -/
structure TypeTree where
  nodes : List Node
  form : TypeForm
deriving Inhabited

def TypeTree.plain (nodes : List Node) : TypeTree := ⟨nodes, .other⟩

inductive Place where
  /-- among the statements of the source itself -/
  | top
  /-- among other statements -/
  | inList
  /-- alone, where no declaration may stand -/
  | alone
deriving DecidableEq, Repr, Inhabited

structure Grammar where
  /-- An expression without commas outside brackets. The flag says that an arrow function may have
  a result type even if no colon follows it. -/
  assignment : Bool → Parse Expr
  /-- An operand with the operators behind it that bind more tightly than a level. -/
  binary : Nat → Parse Expr
  unary : Parse Expr
  /-- An operand without any operator. -/
  primary : Parse Expr
  /-- An operand with the accesses and calls behind it. -/
  leftHand : Parse Expr
  statement : Place → Parse Stmt
  pattern : Parse Pattern
  type : Parse TypeTree
  /-- The parts of markup, from its first tag up to the `>` that ends it, which is not taken. -/
  element : Parse (List Node)

namespace Grammar

def exhausted : Grammar where
  assignment := fun _ => fail .tooDeep
  binary := fun _ => fail .tooDeep
  unary := fail .tooDeep
  primary := fail .tooDeep
  leftHand := fail .tooDeep
  statement := fun _ => fail .tooDeep
  pattern := fail .tooDeep
  type := fail .tooDeep
  element := fail .tooDeep

end Grammar

variable (g : Grammar)

/-- Runs a parser where `in` is an operator. -/
def allowingIn {α : Type} (p : Parse α) : Parse α :=
  within (fun c => { c with allowIn := true }) p

def single : Parse Expr := g.assignment true

/-- An expression without commas, in which `in` is an operator. -/
def item : Parse Expr := allowingIn (single g)

def setDecorator (inDecorator : Bool) : Parse Unit :=
  modify fun s => { s with context := { s.context with inDecorator } }

/-- A comma-separated sequence of expressions. In it a bracket begins an index; behind it, a bracket
does so unless there was a comma. -/
def expression : Parse Expr := do
  let start ← startOffset
  let before := (← context).inDecorator
  setDecorator false
  let first ← single g
  if ← atMark "," then
    let more ← collect do
      if ← eatMark "," then return some (← single g) else return none
    setDecorator before
    return .compound (← spanFrom start) .other ((first :: more).map .expr)
  else return first

/-- A sequence of expressions in which `in` is an operator. -/
def anyExpression : Parse Expr := allowingIn (expression g)

def spread : Parse Expr := do
  let start ← startOffset
  expectMark "..."
  let e ← single g
  return .compound (← spanFrom start) .spread [.expr e]

def arguments : Parse (List Node) := do
  expectMark "("
  let es ← allowingIn <| commaList ")" do
    if ← atMark "..." then spread g else single g
  return es.map .expr

def typeBehindColon? : Parse (List Node) := do
  if ← eatMark ":" then return (← g.type).nodes else return []

def annotation? : Parse (List Node) := do
  if ← typed then typeBehindColon? g else return []

def propertyKey : Parse Key := do
  let t ← current
  match t.kind with
  | .word w _ =>
    advance
    return .word t.span w
  | .hidden w =>
    advance
    return .hidden t.span w
  | .string v _ =>
    advance
    return .expr (.string t.span v)
  | .number v =>
    advance
    return .expr (.number t.span v)
  | .bigint v =>
    advance
    return .expr (.bigint t.span v)
  | .mark "[" =>
    advance
    let e ← item g
    expectMark "]"
    return .expr e
  | _ => unexpected

def openKey : Parse Key := do
  require (!(← atHidden)) .unexpected
  propertyKey g

def keyNodes : Key → List Node
  | .expr e => [.expr e]
  | _ => []

def initializer? : Parse (List Node) := do
  if ← eatMark "=" then return [.expr (← item g)] else return []

/-! ### Patterns that bind names -/

def patternElement : Parse Pattern := do
  let p ← g.pattern
  return { p with nodes := p.nodes ++ (← initializer? g) }

def Pattern.joined (ps : List Pattern) : Pattern where
  nodes := ps.flatMap (·.nodes)
  names := ps.flatMap (·.names)
  isName := false

def restElement (close : String) : Parse Pattern := do
  expectMark "..."
  let p ← g.pattern
  require (← atMark close) .misplaced
  return p

def objectPatternEntry : Parse Pattern := do
  if ← atMark "..." then
    let p ← restElement g closeBrace
    require p.isName .misplaced
    return p
  else
    let named ← atName
    let key ← openKey g
    match key, named, ← atMark ":" with
    | .word _ name, true, false =>
      check (!isOperator (← context) name) .misplaced
      return ⟨← initializer? g, [name], false⟩
    | _, _, _ =>
      expectMark ":"
      let p ← patternElement g
      return { p with nodes := keyNodes key ++ p.nodes }

def arrayPatternItem : Parse Pattern := do
  if ← atMark "," then return ⟨[], [], false⟩
  else if ← atMark "..." then restElement g "]"
  else patternElement g

def pattern : Parse Pattern := do
  if ← eatMark openBrace then
    return .joined (← commaList closeBrace (objectPatternEntry g))
  else if ← eatMark "[" then
    return .joined (← commaList "]" (arrayPatternItem g))
  else return ⟨[], [← takeName], true⟩

/-! ### Patterns that are assigned to -/

/-- Whether an expression without its types and parentheses is a variable or an access. -/
def isPlace : Expr → Bool
  | .identifier _ _ | .member _ _ _ | .compound _ .lookup _ => true
  | .parenthesized _ inner => isPlace inner
  | .compound _ .instantiated (.expr inner :: _) => isPlace inner
  | .compound _ .typed [.expr inner] => isPlace inner
  | .compound _ .typed [.expr first, .expr second] => isPlace first || isPlace second
  | _ => false

def isSimpleTarget : Expr → Bool
  | .parenthesized _ inner => isSimpleTarget inner
  | .compound _ .instantiated _ => false
  | e => isPlace e

mutual

/-- Whether an expression can be assigned to: a simple target, or an object or array literal whose
items can. -/
def isTarget : Expr → Bool
  | .object _ entries => areTargetEntries entries
  | .compound _ .array parts => areTargetParts parts
  | e => isSimpleTarget e

/-- Whether an item of a literal can be assigned to. An item may carry a default. -/
def isTargetItem : Expr → Bool
  | .assignment _ op _ _ => op == "="
  | .compound _ .hole _ => true
  | .object _ entries => areTargetEntries entries
  | .compound _ .array parts => areTargetParts parts
  | e => isSimpleTarget e

def areTargetEntries : List Entry → Bool
  | [] => true
  | [.spread _ argument] => isSimpleTarget argument
  | .spread _ _ :: _ => false
  | .property _ _ value :: entries => isTargetItem value && areTargetEntries entries

def areTargetParts : List Node → Bool
  | [] => true
  | [.expr (.compound _ .spread [.expr e])] => isTarget e
  | .expr (.compound _ .spread _) :: _ => false
  | .expr e :: parts => isTargetItem e && areTargetParts parts
  | .stmt _ :: _ => false

end

def endsInSpread (parts : List Node) : Bool :=
  match parts.getLast? with
  | some (.expr (.compound _ .spread _)) => true
  | _ => false

def entriesEndInSpread (entries : List Entry) : Bool :=
  match entries.getLast? with
  | some (.spread _ _) => true
  | _ => false

mutual

/-- The beginnings of the literals with a rest element that are part of a target. -/
def restLiterals : Expr → List Nat
  | .object span entries =>
    (if entriesEndInSpread entries then [span.start] else []) ++ restEntries entries
  | .compound span .array parts =>
    (if endsInSpread parts then [span.start] else []) ++ restParts parts
  | .compound _ .spread parts => restParts parts
  | _ => []

def restEntries : List Entry → List Nat
  | [] => []
  | .property _ _ value :: entries => restLiterals value ++ restEntries entries
  | .spread _ argument :: entries => restLiterals argument ++ restEntries entries

def restParts : List Node → List Nat
  | [] => []
  | .expr e :: parts => restLiterals e ++ restParts parts
  | .stmt _ :: parts => restParts parts

end

mutual

/-- The beginnings of the entries of a target that may have an initializer. -/
def targetEntries : Expr → List Nat
  | .object _ entries => entriesOfEntries entries
  | .compound _ .array parts => entriesOfParts parts
  | .compound _ .spread parts => entriesOfParts parts
  | _ => []

def entriesOfEntries : List Entry → List Nat
  | [] => []
  | .property span _ value :: entries =>
    span.start :: targetEntries value ++ entriesOfEntries entries
  | .spread _ argument :: entries => targetEntries argument ++ entriesOfEntries entries

def entriesOfParts : List Node → List Nat
  | [] => []
  | .expr e :: parts => targetEntries e ++ entriesOfParts parts
  | .stmt _ :: parts => entriesOfParts parts

end

/-- Takes an expression for the target of an assignment. Initializers of its entries are fine then,
and parentheses around it do not matter. -/
def target (simple : Bool) (e : Expr) : Parse Expr := do
  require (if simple then isSimpleTarget e else isTarget e) .badTarget
  let m := (← get).memory
  check (!(restLiterals e).any m.finalCommas.contains) .badTarget
  let fine := targetEntries e
  if !m.initializers.isEmpty then
    learn fun m => { m with initializers := m.initializers.filter fun n => !fine.contains n }
  return e.bare

end ExportLint.Parser

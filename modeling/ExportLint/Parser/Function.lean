import ExportLint.Parser.Type

/-!
Functions, object literals and classes.
-/

namespace ExportLint.Parser

variable (g : Grammar)

/-! ### Bodies -/

def isDirective : Stmt → Bool
  | .expression _ (.string _ _) => true
  | _ => false

def statements : Parse (List Stmt) :=
  collect do
    if ← atMark closeBrace then return none
    return some (← g.statement .inList)

def block : Parse (List Stmt) := do
  expectMark openBrace
  let body ← statements g
  expectMark closeBrace
  return body

def functionContext (isAsync isGenerator : Bool) (c : Context) : Context :=
  { c with
    allowIn := true
    inGenerator := isGenerator
    inAsync := isAsync
    topLevel := false }

/-- The body of a function. Strings at its beginning are directives and no statements. -/
def functionBody : Parse (List Node) := do
  let body ← within (fun c => { c with inFunction := true }) (block g)
  return (body.dropWhile isDirective).map .stmt

structure FunctionTree where
  nodes : List Node
  parameters : Parameters
  hasTypeParameters : Bool
  hasResult : Bool
  hasBody : Bool
deriving Inhabited

def functionHeadAndBody (owner : ParameterOwner) : Parse FunctionTree := do
  let ts ← typeParameters? g
  let ps ← parameters g owner
  let result ← resultAnnotation? g
  let hasBody ← atMark openBrace
  let body ← if hasBody then functionBody g else pure []
  return {
    nodes := ts.getD [] ++ ps.nodes ++ result.getD [] ++ body
    parameters := ps
    hasTypeParameters := ts.isSome
    hasResult := result.isSome
    hasBody }

/-- A function from behind its name on. Where types are, some need no body. -/
def functionRest (owner : ParameterOwner) (isAsync isGenerator bodyNeeded : Bool) :
    Parse FunctionTree := do
  let f ← within (functionContext isAsync isGenerator) (functionHeadAndBody g owner)
  if !f.hasBody then
    require ((← typed) && !bodyNeeded) .missing
    semicolon
  return f

/-- A function expression, from the word `function` on. -/
def functionExpression (isAsync : Bool) (start : Nat) : Parse Expr := do
  expectWord "function"
  let isGenerator ← eatMark "*"
  if ← atName then
    let c ← context
    let _ ← takeNameUnder { c with inAsync := isAsync, inGenerator := isGenerator }
  let f ← functionRest g .function isAsync isGenerator true
  return .compound (← spanFrom start) .other f.nodes

/-! ### Accessors -/

def checkGetter (f : FunctionTree) : Parse Unit :=
  check (f.parameters.count == 0) .misplaced

def checkSetter (f : FunctionTree) : Parse Unit := do
  check (f.parameters.count == 1 && !f.parameters.hasRest) .misplaced
  check (!((← typed) && f.parameters.hasDefault) && !f.hasResult) .misplaced

def checkAccessor (writes : Bool) (f : FunctionTree) : Parse Unit :=
  if writes then checkSetter f else checkGetter f

def method (isAsync isGenerator bodyNeeded : Bool) : Parse (FunctionTree × Expr) := do
  let start ← startOffset
  let f ← functionRest g .method isAsync isGenerator bodyNeeded
  return (f, .compound (← spanFrom start) .other f.nodes)

/-! ### Object literals -/

/-- A member of an object that is read or written by a call, from its name on. -/
def accessorEntry (start : Nat) (found : List String) (writes : Bool) : Parse Entry := do
  let key ← openKey g
  let (f, value) ← method g false false true
  checkAccessor writes f
  checkModifiers found []
  return .property (← spanFrom start) key value

def shorthand (start : Nat) (span : Span) (name : String) : Parse Entry := do
  let key := Key.word span name
  let value := Expr.identifier span name
  if ← eatMark "=" then
    let e ← single g
    learn fun m => { m with initializers := start :: m.initializers }
    let whole ← spanFrom start
    return .property whole key (.assignment whole "=" value e)
  else return .property (← spanFrom start) key value

def atReference : Parse Bool := do
  match ← kind with
  | .word w _ => return canName w && !isOperator (← context) w
  | _ => return false

def plainEntry (start : Nat) (found : List String) : Parse Entry := do
  let isGenerator ← eatMark "*"
  let named ← atReference
  let key ← openKey g
  if isGenerator || (← atAnyMark ["(", "<"]) then
    checkModifiers found ["async"]
    let (_, value) ← method g (found.contains "async") isGenerator true
    return .property (← spanFrom start) key value
  else
    checkModifiers found []
    match key, named, ← atMark ":" with
    | .word span name, true, false => shorthand g start span name
    | _, _, _ =>
      expectMark ":"
      let value ← single g
      return .property (← spanFrom start) key value

def entry : Parse Entry := do
  let start ← startOffset
  if ← eatMark "..." then
    let e ← single g
    return .spread (← spanFrom start) e
  else
    let found ← modifiers false false
    if ← eatAccessor "get" then accessorEntry g start found false
    else if ← eatAccessor "set" then accessorEntry g start found true
    else plainEntry g start found

/-- Remembers whether a comma follows the last item of the literal that begins at `start`. -/
def learnFinalComma (start : Nat) (finalComma : Bool) : Parse Unit :=
  if finalComma then learn fun m => { m with finalCommas := start :: m.finalCommas } else pure ()

def objectLiteral : Parse Expr := do
  let start ← startOffset
  expectMark openBrace
  let (entries, finalComma) ← allowingIn (commaItems closeBrace (entry g))
  learnFinalComma start finalComma
  return .object (← spanFrom start) entries

/-! ### Members of classes -/

def foreignModifiers : List String := ["const", "export", "in", "out"]

def refuseModifiers (found refused : List String) : Parse Unit :=
  check (!found.any refused.contains) .misplaced

/-- The name of a member: its key, whether it is an expression in brackets, and its parts. -/
structure MemberName where
  key : Key
  computed : Bool
deriving Inhabited

def MemberName.text? (name : MemberName) : Option String :=
  match name.key with
  | .word _ text => some text
  | .expr (.string _ text) => if name.computed then none else some text
  | _ => none

/-- The name of a member of a class. No hidden name is `constructor`, and hidden names need no
modifier that says who may use them. -/
def memberName (found : List String) : Parse MemberName := do
  let computed ← atMark "["
  if let .hidden name := ← kind then
    check (name != "constructor" && !found.any accessWords.contains) .misplaced
  return ⟨← propertyKey g, computed⟩

/-- Complains about a static member with a name that no static member has. -/
def checkStaticName (found : List String) (name : MemberName) : Parse Unit := do
  let taken := found.contains "static" && name.text? == some "prototype"
  check (!taken || (← context).ambient) .misplaced

/-- Complains about a method with a name that it cannot have. The method that is called
`constructor` makes the instances. -/
def checkMethodName (found : List String) (name : MemberName) (isPlain : Bool) : Parse Unit := do
  checkStaticName found name
  let constructs := !found.contains "static" && name.text? == some "constructor"
  check (!constructs || isPlain) .misplaced

def checkAbstract (found : List String) (defined : Bool) : Parse Unit :=
  check (!(found.contains "abstract" && defined)) .misplaced

def accessorMember (found : List String) (writes : Bool) : Parse (List Node) := do
  let name ← memberName g found
  let (f, value) ← method g false false false
  checkAccessor writes f
  checkMethodName found name false
  checkAbstract found f.hasBody
  refuseModifiers found ["async", "declare"]
  return keyNodes name.key ++ [.expr value]

def methodMember (found : List String) (isGenerator : Bool) (name : MemberName) :
    Parse (List Node) := do
  let isAsync := found.contains "async"
  let (f, value) ← method g isAsync isGenerator false
  checkMethodName found name (!isAsync && !isGenerator)
  checkAbstract found f.hasBody
  refuseModifiers found ["declare", "readonly"]
  return keyNodes name.key ++ [.expr value]

def fieldContext (c : Context) : Context :=
  { c with allowIn := true, inGenerator := false, inAsync := false, topLevel := false }

/-- A field that is accessed by calls, from its type on. Its value is computed like what is around
the class. -/
def accessedField (found : List String) (optional : Bool) (name : MemberName) :
    Parse (List Node) := do
  check (!optional) .misplaced
  let t ← annotation? g
  let value ← if ← eatMark "=" then pure [Node.expr (← single g)] else pure []
  semicolon
  check (found.contains "static" || name.text? != some "constructor") .misplaced
  checkAbstract found (!value.isEmpty)
  refuseModifiers found ["async", "declare"]
  return keyNodes name.key ++ t ++ value

def plainField (found : List String) (name : MemberName) : Parse (List Node) := do
  let t ← annotation? g
  let value ← if ← eatMark "=" then pure [Node.expr (← within fieldContext (expression g))]
    else pure []
  semicolon
  checkStaticName found name
  check (name.text? != some "constructor") .misplaced
  checkAbstract found (!value.isEmpty)
  return keyNodes name.key ++ t ++ value

def fieldMember (found : List String) (optional : Bool) (name : MemberName) :
    Parse (List Node) := do
  let definite ← eatMark "!"
  check (!(optional && definite)) .misplaced
  if found.contains "accessor" then accessedField g found optional name
  else plainField g found name

def constructorMember (found : List String) : Parse (List Node) := do
  let key ← propertyKey g
  let start ← startOffset
  let f ← functionRest g .constructor false false false
  check (!f.hasTypeParameters && !f.hasResult) .misplaced
  checkModifiers found accessWords
  return keyNodes key ++ [.expr (.compound (← spanFrom start) .other f.nodes)]

/-- Whether the current token is the name of the method that makes the instances. -/
def atConstructor : Parse Bool := do
  let named ← match ← kind with
    | .word w _ => pure (w == "constructor")
    | .string w _ => pure (w == "constructor")
    | _ => pure false
  if named then nextIs (atAnyMark ["(", "<"]) else return false

def propertyMember (found : List String) : Parse (List Node) := do
  let isGenerator ← eatMark "*"
  let name ← memberName g found
  let optional ← eatMark "?"
  if isGenerator || (← atAnyMark ["(", "<"]) then methodMember g found isGenerator name
  else fieldMember g found optional name

def staticBlock : Parse (List Node) := do
  takeKeyword
  let body ← within
    (fun c => { c with inAsync := true, inGenerator := false, inFunction := false }) (block g)
  return body.map .stmt

def memberRest (decorated : Bool) (found : List String) : Parse (List Node) := do
  if ← atWord "static" <&&> nextIs (atMark openBrace) then
    check (!decorated && found.isEmpty) .misplaced
    staticBlock g
  else if ← eatAccessor "get" then accessorMember g found false
  else if ← eatAccessor "set" then accessorMember g found true
  else if !found.contains "static" && (← atConstructor) then constructorMember g found
  else if ← atIndexSignature then
    check (!decorated) .misplaced
    indexSignature g found
  else if found.contains "declare" then
    within (fun c => { c with ambient := true }) (propertyMember g found)
  else propertyMember g found

def member : Parse (List Node) := do
  let before ← decorators g
  let found ← modifiers true true
  refuseModifiers found foreignModifiers
  return before ++ (← memberRest g (!before.isEmpty) found)

def classBody : Parse (List Node) := do
  expectMark openBrace
  let members ← collect do
    if ← eatMark closeBrace then return none
    if ← eatMark ";" then return some []
    return some (← member g)
  return members.flatten

/-! ### Classes -/

structure Heritage where
  /-- What is extended, each with its type arguments. -/
  bases : List (Expr × List Node)
  /-- What stands behind `implements`. -/
  implemented? : Option (List Node)
deriving Inhabited

def Heritage.nodes (h : Heritage) : List Node :=
  h.bases.flatMap (fun (e, ts) => .expr e :: ts) ++ h.implemented?.getD []

def base : Parse (Expr × List Node) := do
  let e ← g.leftHand
  return (e, ← typeArguments? g)

/-- What stands behind `extends`. -/
def bases : Parse (List (Expr × List Node)) := do
  let first ← base g
  let more ← collect do
    if ← eatMark "," then return some (← base g) else return none
  return first :: more

/-- A type behind `implements`. -/
def implementedType : Parse (List Node) := do
  qualifiedName
  typeArgumentsHere? g

/-- The types behind `implements`. -/
def implementedTypes : Parse (List Node) := do
  let first ← implementedType g
  let more ← collect do
    if ← eatMark "," then return some (← implementedType g) else return none
  return first ++ more.flatten

/-- What is extended and what is implemented, each given once and in this order. -/
def heritage : Parse Heritage :=
  untilDone (fun h => do
    if ← atWord "extends" then
      check (h.bases.isEmpty && h.implemented?.isNone) .repeated
      takeKeyword
      return .inl { h with bases := ← bases g }
    else if ← atWord "implements" then
      check h.implemented?.isNone .repeated
      takeKeyword
      return .inl { h with implemented? := some (← implementedTypes g) }
    else return .inr h) ⟨[], none⟩

/-- A class from the token before its name on, which is the word `class` or stands for it. A class
extends one other at most. How the name is read depends on whether it is there. -/
def classFrom (name : Bool → Parse Unit) (found : List String) : Parse (List Node) := do
  takeKeyword
  name ((← atName) && !(← atWord "implements"))
  let ts ← typeParameters? g
  let inherited ← heritage g
  check (inherited.bases.length ≤ 1) .repeated
  let body ← classBody g
  checkModifiers found ["declare", "abstract"]
  return ts.getD [] ++ inherited.nodes ++ body

def className (present : Bool) : Parse Unit := do
  if present then
    let _ ← takeName

def classExpression (start : Nat) (before : List Node) : Parse Expr := do
  let found ← modifiers false false
  require (← atWord "class") .unexpected
  let ns ← classFrom g className found
  return .compound (← spanFrom start) .other (before ++ ns)

end ExportLint.Parser

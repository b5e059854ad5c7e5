import ExportLint.Parser.Modifier

/-!
Types and parameters.
-/

namespace ExportLint.Parser

variable (g : Grammar)

/-! ### Decorators -/

def decorators : Parse (List Node) :=
  collect do
    if ← eatMark "@" then
      let e ← within (fun c => { c with inDecorator := true }) g.leftHand
      return some (.expr e)
    else return none

/-! ### Type parameters and arguments -/

def typeBehindWord (word : String) : Parse (List Node) := do
  if ← eatWord word then return (← g.type).nodes else return []

def typeParameter : Parse (List Node) := do
  checkModifiers (← modifiers true false) ["const", "in", "out"]
  let _ ← takeName
  let constraint ← typeBehindWord g "extends"
  let standard ← if ← eatMark "=" then pure (← g.type).nodes else pure []
  return constraint ++ standard

def typeParameters? : Parse (Option (List Node)) := do
  if ← typed <&&> eatMark "<" then
    let ps ← commaList ">" (typeParameter g)
    check (!ps.isEmpty) .missing
    return some ps.flatten
  else return none

def typeArguments : Parse (List Node) := do
  if ← atAnyMark ["<<", "<=", "<<="] then rereadFirst
  expectMark "<"
  let ts ← commaList ">" g.type
  check (!ts.isEmpty) .missing
  return ts.flatMap (·.nodes)

def atTypeArguments : Parse Bool := atAnyMark ["<", "<<", "<=", "<<="]

def typeArgumentsHere? : Parse (List Node) := do
  if (← atTypeArguments) && !(← afterNewline) then typeArguments g else return []

def typeArguments? : Parse (List Node) := do
  if ← atMark "<" then typeArguments g else return []

/-! ### Result types -/

/-- The name that a predicate is about, with the word `is`. -/
def predicateHead : Parse Unit := do
  let _ ← takeWord
  require ((← atWord "is") && !(← afterNewline)) .unexpected
  takeKeyword

def resultType : Parse (List Node) := do
  if ← atName then
    let _ ← attempt predicateHead
  return (← g.type).nodes

def resultBehindColon? : Parse (Option (List Node)) := do
  if ← eatMark ":" then return some (← resultType g) else return none

def resultAnnotation? : Parse (Option (List Node)) := do
  if ← typed then resultBehindColon? g else return none

/-! ### Parameters -/

inductive ParameterOwner where
  | function
  | method
  | constructor
deriving DecidableEq, Repr, Inhabited

structure Parameters where
  nodes : List Node
  /-- The number of parameters besides `this` and a rest parameter. -/
  count : Nat
  hasThis : Bool
  hasRest : Bool
  /-- Whether a parameter has an initializer. -/
  hasDefault : Bool
deriving Inhabited

def Parameters.none : Parameters := ⟨[], 0, false, false, false⟩

def restParameter : Parse (List Node) := do
  expectMark "..."
  let p ← g.pattern
  if (← typed) && (← atMark "?") then
    complain .misplaced
    advance
  let t ← annotation? g
  check (!(← atMark "=")) .misplaced
  return p.nodes ++ t ++ (← initializer? g)

/-- A parameter, from behind its modifiers on; says whether it has an initializer. -/
def plainParameter (modified : Bool) : Parse (List Node × Bool) := do
  let p ← g.pattern
  check (p.isName || !modified) .misplaced
  let optional ← if ← typed then eatMark "?" else pure false
  let t ← annotation? g
  let init ← initializer? g
  check (!(optional && !init.isEmpty)) .misplaced
  return (p.nodes ++ t ++ init, !init.isEmpty)

/-- The modifiers of a parameter. Those of a constructor may be properties as well. -/
def parameterModifiers (owner : ParameterOwner) : Parse Bool := do
  let found ← modifiers false false
  let allowed := if (← typed) && owner = .constructor then "readonly" :: "override" :: accessWords
    else []
  checkModifiers found allowed
  return !found.isEmpty

def parameter (owner : ParameterOwner) (ps : Parameters) : Parse Parameters := do
  check (!ps.hasRest) .misplaced
  let before ← decorators g
  check (before.isEmpty || ((← typed) && owner ≠ .function)) .misplaced
  let modified ← parameterModifiers owner
  if ← atMark "..." then
    let ns ← restParameter g
    return { ps with nodes := ps.nodes ++ before ++ ns, hasRest := true }
  else
    let (ns, hasDefault) ← plainParameter g modified
    return { ps with
      nodes := ps.nodes ++ before ++ ns
      count := ps.count + 1
      hasDefault := ps.hasDefault || hasDefault }

/-- The type of `this`, if it comes first among parameters. -/
def thisParameter? : Parse Parameters := do
  if ← typed <&&> eatWord "this" then
    let t ← annotation? g
    if !(← atMark ")") then expectMark ","
    return { Parameters.none with nodes := t, hasThis := true }
  else return .none

/-- The parameters of a function. A comma may follow the last unless it takes the rest. -/
def parameters (owner : ParameterOwner) : Parse Parameters := do
  expectMark "("
  let first ← thisParameter? g
  untilDone (fun ps => do
    if ← eatMark ")" then return .inr ps
    let ps ← parameter g owner ps
    if ← atMark ")" then return .inl ps
    expectMark ","
    if ← atMark ")" then check (!ps.hasRest || (← context).ambient) .misplaced
    return .inl ps) first

/-! ### Function types -/

/-- Runs a parser where `extends` may begin a conditional type. -/
def allowingConditions {α : Type} (p : Parse α) : Parse α :=
  within (fun c => { c with plainType := false }) p

/-- A function type. The token between its parameters and its result is not looked at. -/
def functionType : Parse TypeTree := do
  let _ ← eatWord "abstract"
  let constructs ← eatWord "new"
  allowingConditions do
    let ts ← typeParameters? g
    let ps ← parameters g .function
    check (!(constructs && ps.hasThis)) .misplaced
    takeKeyword
    return .plain (ts.getD [] ++ ps.nodes ++ (← resultType g))

def skipParameter : Parse Bool := do
  let _ ← modifiers false false
  if (← atName) || (← atWord "this") then
    advance
    return true
  else if ← atAnyMark ["[", openBrace] then
    let before := (← get).complaints.length
    let _ ← g.pattern
    return (← get).complaints.length == before
  else return false

def atParameters : Parse Bool :=
  nextIs do
    if ← atAnyMark [")", "..."] then return true
    if !(← skipParameter g) then return false
    if ← atAnyMark [":", ",", "?", "="] then return true
    return (← eatMark ")") && (← atMark "=>")

def atFunctionType : Parse Bool := do
  match ← kind with
  | .mark "<" => return true
  | .mark "(" => atParameters g
  | .word "new" _ => return true
  | .word "abstract" _ => nextIs (atWord "new")
  | _ => return false

/-! ### Members of object types -/

def memberEnd : Parse Unit := do
  if !(← eatMark ",") then
    let _ ← eatMark ";"

def signature : Parse (Parameters × List Node × Bool) := do
  let ts ← typeParameters? g
  let ps ← parameters g .function
  let result ← resultBehindColon? g
  return (ps, ts.getD [] ++ ps.nodes ++ result.getD [], result.isSome)

def atIndexSignature : Parse Bool := do
  if !(← atMark "[") then return false
  nextIs do
    if ← atAnyMark ["...", "["] then return true
    let modified ← atAnyWord modifierWords
    if !modified && !(← atName) then return false
    advance
    if modified && (← atName) then return true
    if ← atAnyMark [":", ","] then return true
    if ← eatMark "?" then atAnyMark [":", ",", "]"]
    else return false

def indexName : Parse (List Node) := do
  let _ ← takeWord
  require (← atMark ":") .unexpected
  typeBehindColon? g

/-- An index signature, which has one index and a type. A `static` comes first. -/
def indexSignature (found : List String) : Parse (List Node) := do
  checkModifiers found ["readonly", "static"]
  check (!found.contains "static" || found.head? == some "static") .misplaced
  expectMark "["
  let (names, finalComma) ← commaItems "]" (indexName g)
  check (names.length == 1 && !finalComma) .misplaced
  require (← atMark ":") .missing
  let t ← typeBehindColon? g
  memberEnd
  return names.flatten ++ t

def accessorSignature (found : List String) (writes : Bool) : Parse (List Node) := do
  let key ← openKey g
  let ps ← parameters g .function
  let result ← resultBehindColon? g
  memberEnd
  check (!(writes && result.isSome)) .misplaced
  checkModifiers found []
  return keyNodes key ++ ps.nodes ++ result.getD []

def propertySignature (found : List String) : Parse (List Node) := do
  let key ← openKey g
  let _ ← eatMark "?"
  if ← atAnyMark ["(", "<"] then
    let (_, ns, _) ← signature g
    memberEnd
    checkModifiers found []
    return keyNodes key ++ ns
  else
    let t ← typeBehindColon? g
    memberEnd
    return keyNodes key ++ t

def typeMember : Parse (List Node) := do
  let constructs ← atWord "new" <&&> nextIs (atAnyMark ["(", "<"])
  if constructs || (← atAnyMark ["(", "<"]) then
    if constructs then takeKeyword
    let (ps, ns, _) ← signature g
    check (!(constructs && ps.hasThis)) .misplaced
    memberEnd
    return ns
  else
    let found ← modifiers false false
    checkModifiers found ["readonly"]
    if ← eatAccessor "get" then accessorSignature g found false
    else if ← eatAccessor "set" then accessorSignature g found true
    else if ← atIndexSignature then indexSignature g found
    else propertySignature g found

def objectType : Parse (List Node) := do
  expectMark openBrace
  let members ← collect do
    if ← eatMark closeBrace then return none
    return some (← typeMember g)
  return members.flatten

def atMappedType : Parse Bool :=
  nextIs do
    if ← atAnyMark ["+", "-"] then
      advance
      atWord "readonly"
    else
      let _ ← eatWord "readonly"
      if !(← eatMark "[") then return false
      let _ ← takeWord
      atWord "in"

/-- A mark with a sign before it, which must be followed by `rest`, or `rest` alone, or nothing. -/
def signed (rest : Parse Bool) : Parse Unit := do
  if ← atAnyMark ["+", "-"] then
    advance
    require (← rest) .unexpected
  else
    let _ ← rest

def mappedType : Parse (List Node) := do
  expectMark openBrace
  signed (eatWord "readonly")
  expectMark "["
  let _ ← takeName
  expectWord "in"
  let constraint := (← g.type).nodes
  let name ← typeBehindWord g "as"
  expectMark "]"
  signed (eatMark "?")
  let t ← typeBehindColon? g
  let _ ← eatMark ";"
  expectMark closeBrace
  return constraint ++ name ++ t

/-! ### Types -/

def qualifiedName : Parse Unit := do
  let _ ← takeWord
  let _ ← collect do
    if ← eatMark "." then
      let _ ← takeWord
      return some ()
    else return none

def typeReference : Parse TypeTree := do
  qualifiedName
  return .plain (← typeArgumentsHere? g)

def tupleType : Parse TypeTree := do
  if ← eatMark "..." then return .plain (← g.type).nodes else g.type

def atTupleName : Parse Bool :=
  wouldBe do
    let _ ← eatMark "..."
    let _ ← takeWord
    let _ ← eatMark "?"
    atMark ":"

/-- An item of a tuple. The mark of one that may be missing stands behind its name if it has one. -/
def tupleItem : Parse (List Node) := do
  if ← atTupleName then
    let rest ← eatMark "..."
    let _ ← takeWord
    let optional ← eatMark "?"
    check (!(rest && optional)) .misplaced
    expectMark ":"
    check (!(← atMark "...")) .misplaced
    let t ← tupleType g
    check (t.form ≠ .optional) .misplaced
    return t.nodes
  else return (← tupleType g).nodes

def templateType : Parse (List Node) := do
  let parts ← collect do
    match ← kind with
    | .chunk _ cooked? last =>
      check cooked?.isSome .badEscape
      advance
      if last then return none
      let t ← g.type
      require (← atMark closeBrace) .unexpected
      rereadChunk
      return some t.nodes
    | _ => unexpected
  return parts.flatten

def importType : Parse TypeTree := do
  expectWord "import"
  expectMark "("
  let _ ← takeString
  let options ← if (← eatMark ",") && !(← atMark ")") then do
      require (← atMark openBrace) .unexpected
      pure [Node.expr (← g.primary)]
    else pure []
  let _ ← eatMark ","
  expectMark ")"
  if ← eatMark "." then qualifiedName
  return .plain (options ++ (← typeArgumentsHere? g))

def typeQuery : Parse TypeTree := do
  expectWord "typeof"
  if ← atWord "import" then importType g
  else
    qualifiedName
    return .plain (← if ← afterNewline then pure [] else typeArguments? g)

def assertion : Parse TypeTree := do
  expectWord "asserts"
  let _ ← takeWord
  return .plain (← typeBehindWord g "is")

def typeWords : List String :=
  ["any", "bigint", "boolean", "intrinsic", "never", "number", "object", "string", "symbol",
    "undefined", "unknown"]

def wordType (word : String) : Parse TypeTree := do
  if typeWords.contains word && !(← nextIs (atMark ".")) then
    takeKeyword
    return .plain []
  else
    match word with
    | "true" | "false" | "void" | "null" =>
      takeKeyword
      return .plain []
    | "this" =>
      takeKeyword
      if (← atWord "is") && !(← afterNewline) then
        takeKeyword
        return .plain (← g.type).nodes
      else return .plain []
    | "typeof" => typeQuery g
    | "import" => importType g
    | "asserts" => if ← nextHere atSomeWord then assertion g else typeReference g
    | _ => typeReference g

def nullableType : Parse TypeTree := do
  expectMark "?"
  if ← atAnyMark [",", closeBrace, ")", ">", "=", "|"] then return .plain []
  else return .plain (← g.type).nodes

def parenthesizedType : Parse TypeTree := do
  expectMark "("
  let t ← g.type
  expectMark ")"
  return .plain t.nodes

def tuple : Parse TypeTree := do
  expectMark "["
  let items ← commaList "]" (tupleItem g)
  return ⟨items.flatten, .tuple⟩

def negativeType : Parse TypeTree := do
  expectMark "-"
  require (← atNumber) .unexpected
  advance
  return .plain []

def bareType : Parse TypeTree := do
  match ← kind with
  | .string _ _ | .number _ | .bigint _ =>
    advance
    return .plain []
  | .chunk _ _ _ => return .plain (← templateType g)
  | .mark "-" => negativeType
  | .mark "(" => parenthesizedType g
  | .mark "[" => tuple g
  | .mark "\x7b" =>
    if ← atMappedType then return .plain (← mappedType g) else return .plain (← objectType g)
  | .mark "?" => nullableType g
  | .mark "!" =>
    advance
    return .plain (← g.type).nodes
  | .word w _ => wordType g w
  | _ => unexpected

def typeMarks : List String :=
  [openBrace, "[", "<", "|", "&", "?", "!", "...", "*"]

def leadingTypeWords : List String :=
  ["void", "null", "this", "typeof", "new", "true", "false", "import", "function"]

def atTypeParenthesis (atType : Parse Bool) : Parse Bool :=
  nextIs do
    if (← atAnyMark [")", "..."]) || (← atName) then return true
    atType

def atType : Nat → Parse Bool
  | 0 => return false
  | depth + 1 => do
    match ← kind with
    | .string _ _ | .number _ | .bigint _ | .chunk _ _ _ => return true
    | .mark "-" => nextIs atNumber
    | .mark "(" => atTypeParenthesis (atType depth)
    | .mark m => return typeMarks.contains m
    | .word w _ => return canName w || leadingTypeWords.contains w
    | _ => return false

/-- How many parentheses are looked through to find out whether a type begins. -/
def typeDepth : Nat := 64

def typeSuffix? (t : TypeTree) : Parse (Option TypeTree) := do
  if ← afterNewline then return none
  match ← kind with
  | .mark "!" =>
    advance
    return some (.plain t.nodes)
  | .mark "?" =>
    if ← nextIs (atType typeDepth) then return none
    advance
    return some ⟨t.nodes, .optional⟩
  | .mark "[" =>
    advance
    if ← atType typeDepth then
      let index ← g.type
      expectMark "]"
      return some (.plain (t.nodes ++ index.nodes))
    else
      expectMark "]"
      return some ⟨t.nodes, .array⟩
  | _ => return none

def suffixedType : Parse TypeTree :=
  allowingConditions do
    let first ← bareType g
    untilDone (fun t => do
      match ← typeSuffix? g t with
      | some t => return .inl t
      | none => return .inr t) first

/-- The constraint of an inferred type. It is none if it is the condition of a conditional type. -/
def inferredConstraint : Parse (List Node) := do
  let before ← get
  expectWord "extends"
  let t ← within (fun c => { c with plainType := true }) g.type
  if before.context.plainType || !(← atMark "?") then return t.nodes
  else
    rewind before
    return []

def inferredType : Parse TypeTree := do
  expectWord "infer"
  let _ ← takeName
  if ← atWord "extends" then return .plain (← inferredConstraint g) else return .plain []

/-- The operators before a type; says whether the last is `readonly`. -/
def typeOperators : Parse (List String) :=
  collect do
    match ← kind with
    | .word w _ =>
      if ["keyof", "unique", "readonly"].contains w then
        takeKeyword
        return some w
      else return none
    | _ => return none

/-- A type with the operators before it. Only arrays and tuples can be made read-only. -/
def operatorType : Parse TypeTree := do
  let operators ← typeOperators
  let t ← if ← atWord "infer" then inferredType g else suffixedType g
  match operators.reverse with
  | [] => return t
  | last :: more =>
    check (last != "readonly" || t.form = .array || t.form = .tuple) .misplaced
    check (!more.contains "readonly") .misplaced
    return .plain t.nodes

/-- Types with `mark` between them and perhaps before the first. -/
def joinedTypes (mark : String) (operand : Parse TypeTree) : Parse TypeTree := do
  let led ← eatMark mark
  let first ← operand
  let more ← collect do
    if ← eatMark mark then return some (← operand) else return none
  if !led && more.isEmpty then return first
  else return .plain ((first :: more).flatMap (·.nodes))

/-- The branches of a conditional type, from behind `extends` on. -/
def conditionalTypeRest : Parse (List Node) := do
  let condition ← within (fun c => { c with plainType := true }) g.type
  expectMark "?"
  let yes ← allowingConditions g.type
  expectMark ":"
  let no ← allowingConditions g.type
  return condition.nodes ++ yes.nodes ++ no.nodes

def type : Parse TypeTree := do
  if ← atFunctionType g then functionType g
  else
    let t ← joinedTypes "|" (joinedTypes "&" (operatorType g))
    if !(← context).plainType && (← atWord "extends") && !(← afterNewline) then
      takeKeyword
      return .plain (t.nodes ++ (← conditionalTypeRest g))
    else return t

end ExportLint.Parser

import ExportLint.Parser.Function

/-!
Expressions, from operands to assignments.
-/

namespace ExportLint.Parser

variable (g : Grammar)

/-! ### Literals -/

/-- A template. Only one with a tag may hold an escape that is not valid. -/
def template (tagged : Bool) : Parse Expr := do
  let start ← startOffset
  let (chunks, es) ← untilDone (fun (chunks, es) => do
    let t ← current
    match t.kind with
    | .chunk raw cooked? last =>
      check (tagged || cooked?.isSome) .badEscape
      let chunks := ⟨t.span, raw, cooked?⟩ :: chunks
      if last then
        advance
        return .inr (chunks.reverse, es.reverse)
      else
        advance
        let e ← anyExpression g
        require (← atMark closeBrace) .unexpected
        rereadChunk
        return .inl (chunks, e :: es)
    | _ => unexpected) (([], []) : List Chunk × List Expr)
  return .template (← spanFrom start) chunks es

def arrayItem : Parse Expr := do
  if ← atMark "," then return .compound (← current).span .hole []
  else if ← atMark "..." then spread g
  else single g

def arrayLiteral : Parse Expr := do
  let start ← startOffset
  expectMark "["
  let (es, finalComma) ← allowingIn (commaItems "]" (arrayItem g))
  learnFinalComma start finalComma
  return .compound (← spanFrom start) .array (es.map .expr)

def parenthesized : Parse Expr := do
  let start ← startOffset
  expectMark "("
  let (es, finalComma) ← within (fun c => { c with allowIn := true, inDecorator := false })
    (commaItems ")" (single g))
  check (!finalComma) .unexpected
  let whole ← spanFrom start
  match es, es.getLast? with
  | [e], _ => return .parenthesized whole e
  | first :: _, some last =>
    let inner : Span := ⟨first.span.start, last.span.stop⟩
    return .parenthesized whole (.compound inner .other (es.map .expr))
  | _, _ => unexpected

/-! ### Accesses and calls -/

def level? : TokenKind → Option Nat
  | .mark m =>
    match m with
    | "??" => some 1
    | "||" => some 2
    | "&&" => some 3
    | "|" => some 4
    | "^" => some 5
    | "&" => some 6
    | "==" | "!=" | "===" | "!==" => some 7
    | "<" | ">" | "<=" | ">=" => some 8
    | "<<" | ">>" | ">>>" => some 9
    | "+" | "-" => some 10
    | "*" | "/" | "%" => some 11
    | "**" => some 12
    | _ => none
  | .word w _ => if w = "instanceof" ∨ w = "in" then some 8 else none
  | _ => none

def comparison : Nat := 8

def operandWords : List String :=
  ["class", "delete", "false", "function", "import", "new", "null", "super", "this", "true",
    "typeof", "void"]

def operandMarks : List String :=
  ["(", "[", openBrace, "/", "/=", "+", "-", "~", "!", "++", "--", "<", "@"]

def atOperand : Parse Bool := do
  match ← kind with
  | .done | .markupText => return false
  | .mark m => return operandMarks.contains m || (level? (.mark m)).isSome
  | .word w _ => return canName w || operandWords.contains w || w == "in" || w == "instanceof"
  | _ => return true

/-- Whether the current token is an operator between two operands, even one that is a word. -/
def atOperator : Parse Bool := do
  match ← kind with
  | .word "in" _ => return !(← context).allowIn
  | .word w _ => return ["as", "satisfies", "instanceof"].contains w
  | k => return (level? k).isSome

/-- Whether type arguments that end before the current token can be meant as such. -/
def canFollowTypeArguments : Parse Bool := do
  if (← atMark "(") || (← atChunk) then return true
  if ← atAnyMark ["<", ">", "+", "-"] then return false
  return (← afterNewline) || (← atOperator) || !(← atOperand)

def equalsHere : Parse Bool := do
  let s ← get
  match s.token.kind with
  | .mark m => return s.token.span.start == s.lastStop && m.startsWith "="
  | _ => return false

/-- Type arguments in an expression. They are told from comparisons by what follows them. -/
def meantTypeArguments : Parse (List Node) := do
  let ts ← typeArguments g
  require (!(← equalsHere) && (← canFollowTypeArguments)) .unexpected
  return ts

def property (start : Nat) (object : Expr) : Parse Expr := do
  match ← kind with
  | .word w _ =>
    advance
    return .member (← spanFrom start) object w
  | .hidden _ =>
    advance
    return .compound (← spanFrom start) .lookup [.expr object]
  | _ => unexpected

def index (start : Nat) (object : Expr) : Parse Expr := do
  expectMark "["
  let e ← anyExpression g
  expectMark "]"
  return .compound (← spanFrom start) .lookup [.expr object, .expr e]

def call (start : Nat) (callee : Expr) (types : List Node) : Parse Expr := do
  let args ← within (fun c => { c with inDecorator := false }) (arguments g)
  return .compound (← spanFrom start) .other (.expr callee :: types ++ args)

def tagged (start : Nat) (tag : Expr) (chained : Bool) : Parse Expr := do
  check (!chained) .misplaced
  let e ← template g true
  return .compound (← spanFrom start) .other [.expr tag, .expr e]

/-- What stands behind `?.`. -/
def optionalLink (start : Nat) (e : Expr) : Parse Expr := do
  match ← kind with
  | .mark "(" => call g start e []
  | .mark "[" => index g start e
  | .mark "<" | .mark "<<" =>
    require (← typed) .unexpected
    let ts ← meantTypeArguments g
    call g start e ts
  | .chunk _ _ _ => tagged g start e true
  | _ => property start e

/-- The next access or call behind an expression, if there is one, and whether a `?.` has been met.
-/
def link? (calls : Bool) (start : Nat) (e : Expr) (chained : Bool) :
    Parse (Option (Expr × Bool)) := do
  match ← kind with
  | .mark "." =>
    advance
    return some (← property start e, chained)
  | .mark "?." =>
    require calls .unexpected
    advance
    return some (← optionalLink g start e, true)
  | .mark "[" =>
    if (← context).inDecorator then return none else return some (← index g start e, chained)
  | .mark "(" => if calls then return some (← call g start e [], chained) else return none
  | .mark "!" =>
    if (← typed) && !(← afterNewline) then
      advance
      return some (.compound (← spanFrom start) .typed [.expr e], chained)
    else return none
  | .mark "<" | .mark "<<" =>
    if !(← typed) then return none
    match ← attempt (meantTypeArguments g) with
    | some ts => return some (.compound (← spanFrom start) .instantiated (.expr e :: ts), chained)
    | none => return none
  | .chunk _ _ _ => return some (← tagged g start e chained, chained)
  | _ => return none

def links (calls : Bool) (start : Nat) (e : Expr) : Parse Expr := do
  let (e, chained) ← untilDone (fun (e, chained) => do
    match ← link? g calls start e chained with
    | some next => return .inl next
    | none => return .inr (e, chained)) (e, false)
  if chained then return .compound e.span .chain [.expr e] else return e

def form? : Expr → Option Form
  | .compound _ form _ => some form
  | _ => none

def newExpression : Parse Expr := do
  let start ← startOffset
  expectWord "new"
  if ← eatMark "." then
    expectWord "target"
    return .compound (← spanFrom start) .other []
  else
    let calleeStart ← startOffset
    let callee ← links g false calleeStart (← g.primary)
    let args ← if ← atMark "(" then arguments g else pure []
    check (form? callee ≠ some .importCall) .misplaced
    return .compound (← spanFrom start) .other (.expr callee :: args)

/-- The word `super`, which is always accessed or called. -/
def superExpression : Parse Expr := do
  let start ← startOffset
  expectWord "super"
  check (← atAnyMark [".", "[", "("]) .misplaced
  return .compound (← spanFrom start) .other []

/-- The arguments of a call of `import`: a module and perhaps options. -/
def importArguments : Parse (List Node) := do
  expectMark "("
  let first ← item g
  let options ← if (← eatMark ",") && !(← atMark ")") then pure [← item g] else pure []
  let _ ← eatMark ","
  expectMark ")"
  return (first :: options).map .expr

/-- The expression `import.meta`, which stands in modules only, or a call of `import`. -/
def importExpression : Parse Expr := do
  let start ← startOffset
  expectWord "import"
  if ← eatMark "." then
    if ← eatWord "meta" then
      learn fun m => { m with isModule := true }
      return .compound (← spanFrom start) .other []
    require (← atAnyWord ["source", "defer"]) .unexpected
    takeKeyword
  let args ← importArguments g
  return .compound (← spanFrom start) .importCall args

def literalWord (e : Expr) : Parse Expr := do
  takeKeyword
  return e

def primary : Parse Expr := do
  let t ← current
  let start := t.span.start
  match t.kind with
  | .string v _ =>
    advance
    return .string t.span v
  | .number v =>
    advance
    return .number t.span v
  | .bigint v =>
    advance
    return .bigint t.span v
  | .chunk _ _ _ => template g false
  | .mark "(" => parenthesized g
  | .mark "[" => arrayLiteral g
  | .mark "\x7b" => objectLiteral g
  | .mark "/" | .mark "/=" =>
    rereadRegexp
    advance
    return .regexp (← spanFrom start)
  | .mark "@" =>
    let before ← decorators g
    classExpression g start before
  | .word w _ =>
    match w with
    | "null" => literalWord (.null t.span)
    | "true" => literalWord (.boolean t.span true)
    | "false" => literalWord (.boolean t.span false)
    | "this" => literalWord (.compound t.span .other [])
    | "function" => functionExpression g false start
    | "class" => classExpression g start []
    | "new" => newExpression g
    | "super" => superExpression
    | "import" => importExpression g
    | _ =>
      if ← atWord "async" <&&> nextHere (atWord "function") then
        takeKeyword
        functionExpression g true start
      else return .identifier t.span (← takeReference)
  | _ => unexpected

def leftHand : Parse Expr := do
  let start ← startOffset
  links g true start (← g.primary)

/-! ### Operators -/

def prefixMarks : List String := ["+", "-", "~", "!"]

def prefixWords : List String := ["typeof", "void", "delete"]

def prefixed : Parse Expr := do
  let start ← startOffset
  takeKeyword
  let e ← g.unary
  return .compound (← spanFrom start) .prefixed [.expr e]

def typeNode (start : Nat) (types : List Node) : Parse Node := do
  return .expr (.compound (← spanFrom start) .type types)

def asserted : Parse Expr := do
  let start ← startOffset
  expectMark "<"
  let t ← typeNode start (← g.type).nodes
  expectMark ">"
  let e ← g.unary
  return .compound (← spanFrom start) .typed [t, .expr e]

def markupOperand : Parse Expr := do
  let start ← startOffset
  let ns ← g.element
  advance
  return .compound (← spanFrom start) .other ns

/-- An operand with `++` or `--` behind it, if there is one. -/
def postfixed : Parse Expr := do
  let start ← startOffset
  let e ← g.leftHand
  if (← atAnyMark ["++", "--"]) && !(← afterNewline) then
    let e ← target true e
    advance
    return .compound (← spanFrom start) .other [.expr e]
  else return e

/-- An operand behind `++` or `--`. -/
def stepped : Parse Expr := do
  let start ← startOffset
  advance
  let e ← target true (← g.unary)
  return .compound (← spanFrom start) .other [.expr e]

/-- Whether the current token is a word, a number or a string that cannot stand behind a name. -/
def atWordOrLiteral : Parse Bool := do
  match ← kind with
  | .word w _ => return w != "in" && w != "instanceof" && w != "of"
  | _ => return (← atNumber) || (← atString)

/-- Whether `await` is an operator here. Where it is none, it is taken for one if what follows makes
no sense behind a name. -/
def atAwait : Parse Bool := do
  if !(← atWord "await") then return false
  if (← context).inAsync then return true
  nextHere atWordOrLiteral

def awaited : Parse Expr := do
  if !(← context).inAsync then
    if ← mayTurnModule then learn fun m => { m with awaitUsed := true } else complain .misplaced
  within (fun c => { c with inAsync := true }) (prefixed g)

def unary : Parse Expr := do
  match ← kind with
  | .mark "<" =>
    if (← dialect).markup then markupOperand g
    else
      require (← typed) .unexpected
      asserted g
  | .mark m =>
    if prefixMarks.contains m then prefixed g
    else if m == "++" || m == "--" then stepped g
    else postfixed g
  | .word w _ =>
    if prefixWords.contains w then prefixed g
    else if ← atAwait then awaited g
    else postfixed g
  | _ => postfixed g

/-- The operator at the current place, if one can be here, and how tightly it binds. -/
def operator? : Parse (Option (TokenKind × Nat)) := do
  if ← atMark ">" then rereadGreater
  let k ← kind
  if (← atWord "in") && !(← context).allowIn then return none
  return (level? k).map (k, ·)

def joinedForm (op : TokenKind) : Form :=
  if op = .mark "??" then .coalesced
  else if op = .mark "||" ∨ op = .mark "&&" then .logical
  else .other

/-- Whether an operand that does not begin with a parenthesis is one of `&&` or `||`. -/
def isBareLogical (enclosed : Bool) (e : Expr) : Bool :=
  !enclosed && form? e = some .logical

def atAttachment : Parse Bool := do
  return (← typed) && !(← afterNewline) && (← atAnyWord ["as", "satisfies"])

def hiddenTest (level : Nat) : Parse Expr := do
  let start ← startOffset
  advance
  require ((← atWord "in") && level < comparison) .unexpected
  takeKeyword
  let right ← g.binary comparison
  require (form? right ≠ some .hiddenTest) .unexpected
  return .compound (← spanFrom start) .hiddenTest [.expr right]

/-- Two operands with an operator between them, from the operator on. What has an operator before it
is not raised to a power, and an operand of `??` is none of `&&` and `||` unless it begins with a
parenthesis. -/
def joined (start : Nat) (enclosed : Bool) (left : Expr) (op : TokenKind) (level : Nat) :
    Parse Expr := do
  takeKeyword
  check (op ≠ .mark "**" || form? left ≠ some .prefixed) .mixed
  let rightEnclosed ← atMark "("
  let right ← g.binary (if op = .mark "**" then level - 1 else level)
  check (op ≠ .mark "??" || !(isBareLogical enclosed left || isBareLogical rightEnclosed right))
    .mixed
  return .compound (← spanFrom start) (joinedForm op) [.expr left, .expr right]

def attached (start : Nat) (e : Expr) : Parse Expr := do
  takeKeyword
  let t ← typeNode start (← g.type).nodes
  return .compound (← spanFrom start) .typed [.expr e, t]

/-- An operand with the operators behind it that bind more tightly than `level`. -/
def binary (level : Nat) : Parse Expr := do
  let start ← startOffset
  let enclosed ← atMark "("
  let first ← if (← context).allowIn && (← atHidden) then hiddenTest g level else g.unary
  untilDone (fun left => do
    if (← atAttachment) && level < comparison then return .inl (← attached g start left)
    else
      match ← operator? with
      | none => return .inr left
      | some (op, tightness) =>
        if tightness ≤ level then return .inr left
        else return .inl (← joined g start enclosed left op tightness)) first

/-! ### Arrow functions -/

inductive Likelihood where
  | no
  | maybe
  | yes
deriving DecidableEq, Repr, Inhabited

def behindEmpty : Parse Likelihood := do
  if ← atAnyMark ["=>", openBrace] then return .yes
  if (← typed) && (← atMark ":") then return .maybe else return .no

def behindFirstName : Parse Likelihood := do
  match ← kind with
  | .mark ":" => return .yes
  | .mark "?" =>
    advance
    if ← atAnyMark [":", ",", "=", ")"] then return .yes else return .no
  | .mark m => if [",", "=", ")"].contains m then return .maybe else return .no
  | _ => return .no

def behindParenthesis : Parse Likelihood := do
  match ← kind with
  | .mark ")" =>
    advance
    behindEmpty
  | .mark "..." => return .yes
  | .mark m => if m == "[" || m == openBrace then return .maybe else return .no
  | .word w _ =>
    advance
    if modifierWords.contains w && w != "async" && (← atName) then
      if ← atWord "as" then return .no else return .yes
    if canName w || w == "this" then behindFirstName else return .no
  | _ => return .no

/-- Judges by the tokens behind the name of a type parameter, where markup could be meant. -/
def behindTypeName : Parse Likelihood := do
  if ← atAnyMark [",", "="] then return .yes
  if ← atWord "extends" then
    if ← nextIs (atAnyMark ["=", ">", "/"]) then return .no else return .yes
  else return .no

def behindAngle : Parse Likelihood := do
  let isConst ← atWord "const"
  if !(← typed) || !((← atName) || isConst) then return .no
  if !(← dialect).markup then return .maybe
  if isConst then advance
  advance
  behindTypeName

/-- How likely an arrow function with parameters in parentheses begins here. -/
def arrowLikelihood : Parse Likelihood := do
  if !((← atAnyMark ["(", "<"]) || (← atWord "async")) then return .no
  let judged ← lookahead do
    if ← atWord "async" then
      advance
      require (!(← afterNewline)) .unexpected
    if ← eatMark "(" then behindParenthesis
    else if ← eatMark "<" then behindAngle
    else return .no
  return judged.getD .no

/-- The arrow of a function, which stands on the line of what is before it. -/
def arrowMark : Parse Unit := do
  check (!(← afterNewline)) .unexpected
  expectMark "=>"

structure ArrowHead where
  isAsync : Bool
  nodes : List Node
  hasResult : Bool
deriving Inhabited

def arrowHead : Parse ArrowHead := do
  let isAsync ← eatWord "async"
  let (ts, ps) ← within (fun c => { c with inAsync := c.inAsync || isAsync }) do
    return (← typeParameters? g, ← parameters g .function)
  check (!ps.hasThis) .misplaced
  let result ← resultAnnotation? g
  arrowMark
  return ⟨isAsync, ts.getD [] ++ ps.nodes ++ result.getD [], result.isSome⟩

/-- The body of an arrow function. An expression counts as a statement. -/
def arrowBody (isAsync resultAllowed : Bool) : Parse (List Node) :=
  within (fun c => { c with inAsync := isAsync, inGenerator := false, topLevel := false }) do
    if ← atMark openBrace then functionBody g
    else
      let e ← g.assignment resultAllowed
      return [.stmt (.expression e.span e)]

def possibleArrow? (resultAllowed : Bool) : Parse (Option Expr) := do
  let before ← get
  let start := before.token.span.start
  if before.memory.notArrows.contains start then return none
  match ← attempt (arrowHead g) with
  | none =>
    learn fun m => { m with notArrows := start :: m.notArrows }
    return none
  | some head =>
    let body ← arrowBody g head.isAsync resultAllowed
    if !resultAllowed && head.hasResult && !(← atMark ":") then
      rewind before
      learn fun m => { m with notArrows := start :: m.notArrows }
      return none
    else return some (.compound (← spanFrom start) .other (head.nodes ++ body))

def parenthesizedArrow? (resultAllowed : Bool) : Parse (Option Expr) := do
  match ← arrowLikelihood with
  | .no => return none
  | .maybe => possibleArrow? g resultAllowed
  | .yes =>
    let start ← startOffset
    let head ← arrowHead g
    let body ← arrowBody g head.isAsync true
    return some (.compound (← spanFrom start) .other (head.nodes ++ body))

def nameArrow (start : Nat) (isAsync resultAllowed : Bool) : Parse Expr := do
  arrowMark
  let body ← arrowBody g isAsync resultAllowed
  return .compound (← spanFrom start) .other body

/-- An arrow function that begins with `async` and a name, if one begins here. -/
def asyncNameArrow? (resultAllowed : Bool) : Parse (Option Expr) := do
  let start ← startOffset
  let ahead ← if ← atWord "async" then
      nextHere (do if ← atName then nextIs (atMark "=>") else return false)
    else pure false
  if ahead then
    takeKeyword
    let _ ← takeNameUnder { ← context with inAsync := true }
    return some (← nameArrow g start true resultAllowed)
  else return none

/-! ### Assignments -/

def assignmentMarks : List String :=
  ["=", "+=", "-=", "*=", "/=", "%=", "**=", "<<=", ">>=", ">>>=", "&=", "|=", "^=", "&&=", "||=",
    "??="]

/-- Whether `yield` is an operator here. Where it is none, it is taken for one if what follows makes
no sense behind a name. -/
def atYield : Parse Bool := do
  if !(← atWord "yield") then return false
  if (← context).inGenerator then return true
  nextHere atWordOrLiteral

/-- Whether nothing can follow `yield` here. -/
def yieldsNothing : Parse Bool := do
  match ← kind with
  | .done => return true
  | .mark m => return [")", "]", closeBrace, ",", ";", ":"].contains m
  | .word w _ => return w == "in"
  | _ => return false

def yieldExpression : Parse Expr := do
  let start ← startOffset
  check (← context).inGenerator .misplaced
  takeKeyword
  if ← afterNewline then return .compound (← spanFrom start) .other []
  let delegates ← eatMark "*"
  if !delegates && (← yieldsNothing) then return .compound (← spanFrom start) .other []
  let e ← within (fun c => { c with inGenerator := true }) (single g)
  return .compound (← spanFrom start) .other [.expr e]

def conditionalRest (start : Nat) (test : Expr) (resultAllowed : Bool) : Parse Expr := do
  let yes ← allowingIn (g.assignment false)
  expectMark ":"
  let no ← g.assignment resultAllowed
  return .compound (← spanFrom start) .other [.expr test, .expr yes, .expr no]

/-- What follows the first operand of an assignment, if there is more of it. -/
def assignmentRest (start : Nat) (left : Expr) (resultAllowed : Bool) : Parse Expr := do
  match left, ← kind with
  | .identifier _ _, .mark "=>" => nameArrow g start false resultAllowed
  | _, .mark "?" =>
    advance
    conditionalRest g start left resultAllowed
  | _, .mark m =>
    if assignmentMarks.contains m then
      let left ← target false left
      advance
      let value ← g.assignment resultAllowed
      return .assignment (← spanFrom start) m left value
    else return left
  | _, _ => return left

def assignment (resultAllowed : Bool) : Parse Expr := do
  if ← atYield then yieldExpression g
  else if let some e := ← parenthesizedArrow? g resultAllowed then return e
  else if let some e := ← asyncNameArrow? g resultAllowed then return e
  else
    let start ← startOffset
    let left ← g.binary 0
    assignmentRest g start left resultAllowed

end ExportLint.Parser

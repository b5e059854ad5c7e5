import ExportLint.Parser.Module
import ExportLint.Parser.Markup

/-!
Statements.
-/

namespace ExportLint.Parser

variable (g : Grammar)

def condition : Parse Expr := do
  expectMark "("
  let e ← expression g
  expectMark ")"
  return e

def body : Parse Stmt := g.statement .alone

def ifParts : Parse (List Node) := do
  expectWord "if"
  let test ← condition g
  let yes ← body g
  if ← eatWord "else" then return [.expr test, .stmt yes, .stmt (← body g)]
  else return [.expr test, .stmt yes]

def whileParts : Parse (List Node) := do
  expectWord "while"
  let test ← condition g
  return [.expr test, .stmt (← body g)]

def withParts : Parse (List Node) := do
  expectWord "with"
  let e ← condition g
  return [.expr e, .stmt (← body g)]

def doParts : Parse (List Node) := do
  expectWord "do"
  let s ← body g
  expectWord "while"
  let test ← condition g
  let _ ← eatMark ";"
  return [.stmt s, .expr test]

/-! ### Loops -/

/-- An expression, unless the part of a loop where it could stand is empty. -/
def loopPart? : Parse (List Node) := do
  if ← atAnyMark [";", ")"] then return [] else return [.expr (← anyExpression g)]

/-- What follows the first part of a loop with three parts, which waits for nothing. -/
def threeParts (isAwait : Bool) (init : List Node) : Parse (List Node) := do
  check (!isAwait) .misplaced
  expectMark ";"
  let test ← loopPart? g
  expectMark ";"
  let update ← loopPart? g
  expectMark ")"
  return init ++ test ++ update ++ [.stmt (← body g)]

/-- What follows the variable of a loop through values. A loop that waits is one with `of`. -/
def iteration (isAwait : Bool) (left : List Node) : Parse (List Node) := do
  let right ← if ← eatWord "of" then single g
    else do
      check (!isAwait) .misplaced
      expectWord "in"
      expression g
  expectMark ")"
  return left ++ [.expr right, .stmt (← body g)]

def atIteration : Parse Bool := atAnyWord ["of", "in"]

/-- Runs a parser where `in` is no operator. -/
def withoutIn {α : Type} (p : Parse α) : Parse α :=
  within (fun c => { c with allowIn := false }) p

def variableLoop (isAwait : Bool) (word : String) : Parse (List Node) := do
  expectWord word
  let vs ← withoutIn (declarators g ignored)
  if ← atIteration then iteration g isAwait (Variable.parts vs)
  else
    checkInitialized word vs
    threeParts g isAwait (Variable.parts vs)

def resourceLoop (isAwait : Bool) : Parse (List Node) := do
  let vs ← resources g
  check (!(← atWord "in")) .misplaced
  if ← atIteration then iteration g isAwait (Variable.parts vs)
  else threeParts g isAwait (Variable.parts vs)

/-- A loop that begins with an expression. Some first words are not told from a declaration. -/
def expressionLoop (isAwait : Bool) : Parse (List Node) := do
  let isLet ← atWord "let"
  let isAsync ← if (← kind) == .word "async" false then nextIs (atWord "of") else pure false
  let e ← withoutIn (expression g)
  if ← atIteration then
    if ← atWord "of" then check (!isLet && (isAwait || !isAsync)) .misplaced
    let e ← target false e
    iteration g isAwait [.expr e]
  else threeParts g isAwait [.expr e]

/-- Whether `let` declares variables in a loop. -/
def beforeLoopVariable : Parse Bool :=
  nextIs do
    match ← kind with
    | .word w _ => return canName w
    | .mark m => return m == "[" || m == openBrace
    | _ => return false

/-- Whether variables that are disposed of are declared in a loop. A variable called `of` is told
from a loop through values by what follows it. -/
def atLoopResources : Parse Bool := do
  if ← atWord "using" <&&> nextIs (atWord "of") then
    nextHere (nextIs (atAnyMark ["=", ";", ":"]))
  else atResources

def loopAwait : Parse Bool := do
  if ← atWord "await" then
    if !(← context).inAsync then
      if ← mayTurnModule then learn fun m => { m with awaitUsed := true }
      else complain .misplaced
    takeKeyword
    return true
  else return false

def forParts : Parse (List Node) := do
  expectWord "for"
  let isAwait ← loopAwait
  expectMark "("
  match ← kind with
  | .mark ";" => threeParts g isAwait []
  | .word "var" _ => variableLoop g isAwait "var"
  | .word "const" _ => variableLoop g isAwait "const"
  | .word "let" _ =>
    if ← beforeLoopVariable then variableLoop g isAwait "let" else expressionLoop g isAwait
  | _ => if ← atLoopResources then resourceLoop g isAwait else expressionLoop g isAwait

/-! ### Jumps -/

def jumpParts : Parse (List Node) := do
  takeKeyword
  if !(← canEnd) then
    let _ ← takeName
  semicolon
  return []

def returnParts : Parse (List Node) := do
  check (← context).inFunction .misplaced
  expectWord "return"
  let value ← if ← canEnd then pure [] else pure [Node.expr (← anyExpression g)]
  semicolon
  return value

def throwParts : Parse (List Node) := do
  expectWord "throw"
  check (!(← afterNewline)) .unexpected
  let e ← expression g
  semicolon
  return [.expr e]

/-! ### Branches -/

/-- A statement of a branch. Nothing that is disposed of is declared there. -/
def branchStatement : Parse Stmt := do
  check (!(← atResources)) .misplaced
  g.statement .inList

/-- A case of a `switch`, or its default. -/
def switchCase : Parse (List Node) := do
  let test ← if ← eatWord "default" then pure [] else do
    expectWord "case"
    pure [Node.expr (← expression g)]
  expectMark ":"
  let ss ← collect do
    if (← atMark closeBrace) || (← atAnyWord ["case", "default"]) then return none
    return some (← branchStatement g)
  return test ++ ss.map .stmt

def switchParts : Parse (List Node) := do
  expectWord "switch"
  let e ← condition g
  expectMark openBrace
  let cases ← collect do
    if ← eatMark closeBrace then return none
    return some (← switchCase g)
  return .expr e :: cases.flatten

def blockStatement : Parse Stmt := do
  let start ← startOffset
  let ss ← block g
  return .compound (← spanFrom start) (ss.map .stmt)

def catchParts : Parse (List Node) := do
  let caught ← if ← eatMark "(" then do
      let p ← g.pattern
      let t ← annotation? g
      expectMark ")"
      pure (p.nodes ++ t)
    else pure []
  return caught ++ [.stmt (← blockStatement g)]

def tryParts : Parse (List Node) := do
  expectWord "try"
  let s ← blockStatement g
  let caught ← if ← eatWord "catch" then pure (some (← catchParts g)) else pure none
  let final ← if ← eatWord "finally" then pure (some [Node.stmt (← blockStatement g)])
    else pure none
  check (caught.isSome || final.isSome) .missing
  return .stmt s :: (caught.getD [] ++ final.getD [])

/-! ### Any statement -/

/-- A statement of `parts`. -/
def statementOf (parts : Parse (List Node)) : Parse Stmt := do
  let start ← startOffset
  let ns ← parts
  return .compound (← spanFrom start) ns

def expressionStatement (e : Parse Expr) : Parse Stmt := do
  let start ← startOffset
  let e ← e
  semicolon
  return .expression (← spanFrom start) e

/-- An expression and the end of the statement, or a label with its statement. -/
def labelOrExpression : Parse Stmt := do
  let start ← startOffset
  let e ← expression g
  let isLabel ← match e with
    | .identifier _ _ => eatMark ":"
    | _ => pure false
  if isLabel then
    let s ← body g
    return .compound (← spanFrom start) [.stmt s]
  else
    semicolon
    return .expression (← spanFrom start) e

def decorated (place : Place) : Parse Stmt := do
  let start ← startOffset
  let before ← decorators g
  if ← atWord "export" then exportDeclaration g place before
  else
    let found ← modifiers false false
    require (← atWord "class") .unexpected
    let ns ← classDeclaration g ignored true place found
    return .compound (← spanFrom start) (before ++ ns)

/-- A statement that begins with `let`. The word is a name if an operator that is not logical, an
access or a call follows, and where no declaration may stand. -/
def letStatement (place : Place) : Parse Stmt := do
  let operates ← nextIs do
    match ← kind with
    | .mark m =>
      let isLogical := ["&&", "||", "??"].contains m
      return assignmentMarks.contains m || ((level? (.mark m)).isSome && !isLogical)
    | .word w _ => return w == "in" || w == "instanceof"
    | _ => return false
  if operates then expressionStatement (single g)
  else if ← nextIs (atAnyMark [".", "?.", "("]) then expressionStatement (expression g)
  else if (place = .alone && !(← nextIs (atMark "["))) || (← nextIs (atMark ";")) then
    expressionStatement do
      let span := (← current).span
      return .identifier span (← takeReference)
  else
    check (place ≠ .alone) .misplaced
    statementOf (variableDeclaration g ignored "let" [])

/-- A statement that begins with `const`: an enumeration, or variables. -/
def constStatement (place : Place) : Parse Stmt := do
  if ← typed <&&> nextIs (atWord "enum") then
    statementOf do
      takeKeyword
      enumDeclaration g ["const"]
  else
    check (place ≠ .alone) .misplaced
    statementOf (variableDeclaration g ignored "const" [])

def otherStatement (place : Place) (word : String) : Parse Stmt := do
  if ← atResources then
    check (place ≠ .alone) .misplaced
    statementOf (resourceDeclaration g)
  else if ← atFunction then statementOf (functionDeclaration g ignored true place [])
  else if ← typed <&&> pure (declaringWords.contains word) <&&> atTypedDeclaration then
    statementOf (modifiedDeclaration g)
  else labelOrExpression g

def statement (place : Place) : Parse Stmt := do
  match ← kind with
  | .mark "\x7b" => blockStatement g
  | .mark ";" => statementOf (do
      advance
      return [])
  | .mark "@" => decorated g place
  | .word "let" false => letStatement g place
  | .word w _ =>
    match w with
    | "if" => statementOf (ifParts g)
    | "while" => statementOf (whileParts g)
    | "do" => statementOf (doParts g)
    | "for" => statementOf (forParts g)
    | "with" => statementOf (withParts g)
    | "break" | "continue" => statementOf jumpParts
    | "return" => statementOf (returnParts g)
    | "throw" => statementOf (throwParts g)
    | "switch" => statementOf (switchParts g)
    | "try" => statementOf (tryParts g)
    | "debugger" => statementOf (do
        takeKeyword
        semicolon
        return [])
    | "var" => statementOf (variableDeclaration g ignored "var" [])
    | "const" => constStatement g place
    | "class" => statementOf (classDeclaration g ignored true place [])
    | "import" =>
      if ← nextIs (atAnyMark ["(", "."]) then labelOrExpression g else importDeclaration place
    | "export" => exportDeclaration g place []
    | _ => otherStatement g place w
  | _ => labelOrExpression g

end ExportLint.Parser

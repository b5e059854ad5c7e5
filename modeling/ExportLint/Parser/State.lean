import ExportLint.Parser.Lexer
import ExportLint.Dialect

/-!
The state of parsing and the steps everything else is made of. A parser takes the state and gives a
result and the state behind it, or the fault that ends parsing. Faults that do not end it are noted
as complaints: going back to an earlier place takes them back.
-/

namespace ExportLint.Parser

structure Context where
  /-- Whether `in` is an operator. -/
  allowIn : Bool
  /-- Whether `yield` is an operator. -/
  inGenerator : Bool
  /-- Whether `await` is an operator. -/
  inAsync : Bool
  /-- Whether `return` is a statement. -/
  inFunction : Bool
  /-- Whether the code is run when the source is. -/
  topLevel : Bool
  /-- Whether declarations need no initializers. -/
  ambient : Bool
  /-- Whether `extends` begins no conditional type. -/
  plainType : Bool
  /-- Whether a bracket begins no index, since the expression is a decorator. -/
  inDecorator : Bool
deriving DecidableEq, Repr, Inhabited

structure Memory where
  /-- Beginnings of entries that are a name with an initializer. The object literal of such an entry
  has to turn out a pattern. -/
  initializers : List Nat
  /-- Beginnings of literals in which a comma follows the last item. -/
  finalCommas : List Nat
  /-- Beginnings of what is known not to be an arrow function. -/
  notArrows : List Nat
  /-- The names exported so far. -/
  exported : List String
  /-- Whether an import or export has been met. -/
  isModule : Bool
  /-- Whether `await` has been taken for a name that it is not in a module. -/
  awaitNamed : Bool
  /-- Whether `await` has been taken for the operator that it is in a module only. -/
  awaitUsed : Bool
deriving Inhabited

structure State where
  dialect : Dialect
  /-- The number of characters of the source, which has no more tokens. -/
  length : Nat
  /-- The current token. -/
  token : Token
  /-- The text behind the current token, and its byte offset. -/
  rest : List Char
  offset : Nat
  /-- Where the token before the current one ends. -/
  lastStop : Nat
  context : Context
  /-- The faults that have not ended parsing, the latest first. -/
  complaints : List SyntaxError
  memory : Memory
deriving Inhabited

abbrev Parse := ExceptT SyntaxError (StateM State)

def fail {α : Type} (fault : Fault) : Parse α := do
  throw ⟨fault, (← get).token.span.start⟩

def unexpected {α : Type} : Parse α := fail .unexpected

/-- Ends parsing at the current token unless `ok`. -/
def require (ok : Bool) (fault : Fault) : Parse Unit :=
  if ok then pure () else fail fault

def complain (fault : Fault) : Parse Unit :=
  modify fun s => { s with complaints := ⟨fault, s.token.span.start⟩ :: s.complaints }

/-- Notes a fault at the current token unless `ok`. -/
def check (ok : Bool) (fault : Fault) : Parse Unit :=
  if ok then pure () else complain fault

def learn (change : Memory → Memory) : Parse Unit :=
  modify fun s => { s with memory := change s.memory }

/-- Makes the token that `lexer` finds in `text`, at `offset`, the current one. -/
def lexAt (lexer : Lexer) (text : List Char) (offset : Nat) (newline : Bool) : Parse Unit := do
  match lexer text with
  | .ok l =>
    let stop := offset + l.bytes
    modify fun s =>
      { s with token := ⟨l.kind, ⟨offset, stop⟩, newline⟩, rest := l.rest, offset := stop }
  | .error fault => throw ⟨fault, offset⟩

def leave : Parse Unit :=
  modify fun s => { s with lastStop := s.token.span.stop }

/-- Goes on to the next token, which `lexer` is to find behind blanks and comments. -/
def advanceWith (lexer : Lexer) : Parse Unit := do
  leave
  let s ← get
  match skip s.rest with
  | .ok skipped => lexAt lexer skipped.rest (s.offset + skipped.bytes) skipped.newline
  | .error fault => throw ⟨fault, s.offset⟩

def advance : Parse Unit := advanceWith Parser.token

def advanceHere (lexer : Lexer) : Parse Unit := do
  leave
  let s ← get
  lexAt lexer s.rest s.offset false

def reread (lexer : Lexer) : Parse Unit := do
  let s ← get
  match s.token.kind with
  | .mark m => lexAt lexer (m.toList ++ s.rest) s.token.span.start s.token.newline
  | _ => unexpected

def rereadRegexp : Parse Unit := reread fun cs => regexp (cs.drop 1)

def rereadChunk : Parse Unit := reread fun cs => chunk (cs.drop 1)

/-- Reads a `>` together with what follows it. -/
def rereadGreater : Parse Unit := reread fun cs =>
  match greaterMarks.find? (·.isPrefixOf cs) with
  | some m => .ok (ofMark m cs)
  | none => .error .unexpected

def rereadFirst : Parse Unit := reread fun cs => .ok (ofMark (cs.take 1) cs)

/-! ### Looking -/

def current : Parse Token := return (← get).token

def kind : Parse TokenKind := return (← get).token.kind

def atMark (text : String) : Parse Bool := return (← kind) == .mark text

def atWord (name : String) : Parse Bool := do
  match ← kind with
  | .word w _ => return w == name
  | _ => return false

def atAnyMark (texts : List String) : Parse Bool := do
  match ← kind with
  | .mark m => return texts.contains m
  | _ => return false

def atAnyWord (names : List String) : Parse Bool := do
  match ← kind with
  | .word w _ => return names.contains w
  | _ => return false

def atSomeWord : Parse Bool := do
  match ← kind with
  | .word _ _ => return true
  | _ => return false

def atString : Parse Bool := do
  match ← kind with
  | .string _ _ => return true
  | _ => return false

def atNumber : Parse Bool := do
  match ← kind with
  | .number _ | .bigint _ => return true
  | _ => return false

def atChunk : Parse Bool := do
  match ← kind with
  | .chunk _ _ _ => return true
  | _ => return false

def atHidden : Parse Bool := do
  match ← kind with
  | .hidden _ => return true
  | _ => return false

def atDone : Parse Bool := return (← kind) == .done

def afterNewline : Parse Bool := return (← current).newline

def startOffset : Parse Nat := return (← current).span.start

/-- The span from `start` to the end of the last token. -/
def spanFrom (start : Nat) : Parse Span := return ⟨start, (← get).lastStop⟩

def context : Parse Context := return (← get).context

def dialect : Parse Dialect := return (← get).dialect

def typed : Parse Bool := return (← dialect).types

/-! ### Trying -/

/-- Goes back to an earlier state, but keeps what has been learned about the text since. -/
def rewind (s : State) : Parse Unit :=
  modify fun later => { s with memory := later.memory }

def attempt {α : Type} (p : Parse α) : Parse (Option α) := do
  let s ← get
  try return some (← p)
  catch _ =>
    rewind s
    return none

def lookahead {α : Type} (p : Parse α) : Parse (Option α) := do
  let s ← get
  let a ← attempt p
  rewind s
  return a

def wouldBe (test : Parse Bool) : Parse Bool :=
  return (← lookahead test).getD false

def nextIs (test : Parse Bool) : Parse Bool := wouldBe (advance *> test)

def nextHere (test : Parse Bool) : Parse Bool :=
  nextIs do
    if ← afterNewline then return false
    test

def within {α : Type} (change : Context → Context) (p : Parse α) : Parse α := do
  let before ← context
  modify fun s => { s with context := change s.context }
  let a ← p
  modify fun s => { s with context := before }
  return a

def iterate {α β : Type} (step : α → Parse (α ⊕ β)) : Nat → α → Parse β
  | 0, _ => fail .tooDeep
  | fuel + 1, a => do
    match ← step a with
    | .inl a => iterate step fuel a
    | .inr b => return b

/-- Repeats a step, each of which but the last reads a token, until it gives a result. -/
def untilDone {α β : Type} (step : α → Parse (α ⊕ β)) (a : α) : Parse β := do
  iterate step ((← get).length + 3) a

def collect {α : Type} (p : Parse (Option α)) : Parse (List α) :=
  untilDone (fun acc => do
    match ← p with
    | some a => return .inl (a :: acc)
    | none => return .inr acc.reverse) []

/-! ### Taking -/

def eatMark (text : String) : Parse Bool := do
  if ← atMark text then
    advance
    return true
  else return false

def expectMark (text : String) : Parse Unit := do
  if ← atMark text then advance else unexpected

def takeKeyword : Parse Unit := do
  if let .word _ true := ← kind then complain .escapedKeyword
  advance

def eatWord (name : String) : Parse Bool := do
  if ← atWord name then
    takeKeyword
    return true
  else return false

def expectWord (name : String) : Parse Unit := do
  if ← atWord name then takeKeyword else unexpected

def openBrace : String := "\x7b"

def closeBrace : String := "\x7d"

def canEnd : Parse Bool := do
  return (← atMark ";") || (← atMark closeBrace) || (← atDone) || (← afterNewline)

def semicolon : Parse Unit := do
  if ← eatMark ";" then return
  require (← canEnd) .unexpected

/-- Items between the current token and `close`, with commas between them and perhaps behind the
last, of which the flag tells. The closing mark is taken. -/
def commaItems {α : Type} (close : String) (item : Parse α) : Parse (List α × Bool) :=
  untilDone (fun acc => do
    if ← eatMark close then return .inr (acc.reverse, !acc.isEmpty)
    let a ← item
    if ← eatMark "," then return .inl (a :: acc)
    expectMark close
    return .inr ((a :: acc).reverse, false)) []

/-- Items between the current token and `close`, with commas between them and perhaps behind the
last. The closing mark is taken. -/
def commaList {α : Type} (close : String) (item : Parse α) : Parse (List α) :=
  return (← commaItems close item).1

/-! ### Words -/

def reserved : List String :=
  ["break", "case", "catch", "class", "const", "continue", "debugger", "default", "delete", "do",
    "else", "enum", "export", "extends", "false", "finally", "for", "function", "if", "import",
    "in", "instanceof", "new", "null", "return", "super", "switch", "this", "throw", "true", "try",
    "typeof", "var", "void", "while", "with"]

def canName (word : String) : Bool := !reserved.contains word

/-- Whether a word is an operator in a context, though elsewhere it names a variable. -/
def isOperator (c : Context) (word : String) : Bool :=
  (word == "await" && c.inAsync) || (word == "yield" && c.inGenerator)

def atName : Parse Bool := do
  match ← kind with
  | .word w _ => return canName w
  | _ => return false

/-- Takes the name of a variable, under a context that tells which words are operators. -/
def takeNameUnder (c : Context) : Parse String := do
  match ← kind with
  | .word w _ =>
    require (canName w) .unexpected
    check (!isOperator c w) .misplaced
    advance
    return w
  | _ => unexpected

def takeName : Parse String := do takeNameUnder (← context)

/-- Whether the source may turn out a module and the current place is one where `await` would be an
operator then. -/
def mayTurnModule : Parse Bool := do
  return (← dialect).goal == .undecided && (← context).topLevel

def takeReference : Parse String := do
  if (← atWord "await") && (← mayTurnModule) then learn fun m => { m with awaitNamed := true }
  takeName

def takeWord : Parse String := do
  match ← kind with
  | .word w _ =>
    advance
    return w
  | _ => unexpected

def takeString : Parse String := do
  match ← kind with
  | .string v _ =>
    advance
    return v
  | _ => unexpected

end ExportLint.Parser

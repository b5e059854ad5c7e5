import ExportLint.Parser.Statement

/-!
Parsing a whole source. The parsers are tied together here: each level of nesting uses the grammar
of one level less.

Whether a source is a module may be known only at its end. A statement in which `await` was taken
for a name is read again then, with `await` as an operator.
-/

namespace ExportLint.Parser

def Grammar.ofDepth : Nat → Grammar
  | 0 => exhausted
  | depth + 1 =>
    { assignment := fun resultAllowed s => Parser.assignment (ofDepth depth) resultAllowed s
      binary := fun level s => Parser.binary (ofDepth depth) level s
      unary := fun s => Parser.unary (ofDepth depth) s
      primary := fun s => Parser.primary (ofDepth depth) s
      leftHand := fun s => Parser.leftHand (ofDepth depth) s
      statement := fun place s => Parser.statement (ofDepth depth) place s
      pattern := fun s => Parser.pattern (ofDepth depth) s
      type := fun s => Parser.type (ofDepth depth) s
      element := fun s => Parser.element (ofDepth depth) s }

/-- The line that names the interpreter of a script, at the very beginning of its text. -/
def skipHashbang (cs : List Char) : List Char :=
  match cs with
  | '#' :: '!' :: rest => rest.dropWhile fun c => !isLineEnd c
  | _ => cs

def Context.initial (dialect : Dialect) : Context where
  allowIn := true
  inGenerator := false
  inAsync := dialect.goal = .module
  inFunction := dialect.goal = .script
  topLevel := true
  ambient := dialect.ambient
  plainType := false
  inDecorator := false

def Memory.initial : Memory where
  initializers := []
  finalCommas := []
  notArrows := []
  exported := []
  isModule := false
  awaitNamed := false
  awaitUsed := false

def State.initial (dialect : Dialect) (source : List Char) : State :=
  let rest := skipHashbang source
  { dialect
    length := source.length
    token := default
    rest
    offset := Text.byteLength source - Text.byteLength rest
    lastStop := 0
    context := .initial dialect
    complaints := []
    memory := .initial }

structure Reading where
  /-- The statements, the latest first. -/
  statements : List Stmt
  /-- The fault that has ended parsing, if there is one. -/
  fatal? : Option SyntaxError
  /-- Where statements begin in which `await` is a name, and how many statements come before, the
  latest first. -/
  doubtful : List (Nat × State)
deriving Inhabited

def readStatement (g : Grammar) (r : Reading) : Parse Reading := do
  let before ← get
  learn fun m => { m with awaitNamed := false }
  let read ← try pure (Except.ok (← g.statement .top)) catch e => pure (Except.error e)
  let doubtful := if (← get).memory.awaitNamed then (r.statements.length, before) :: r.doubtful
    else r.doubtful
  match read with
  | .ok s => return { r with statements := s :: r.statements, doubtful }
  | .error e => return { r with fatal? := some e, doubtful }

/-- Reads statements up to the end of the text or to a fault that ends parsing. -/
def readStatements (g : Grammar) : Parse Reading :=
  untilDone (fun r => do
    if (← atDone) || r.fatal?.isSome then return .inr r
    return .inl (← readStatement g r)) ⟨[], none, []⟩

/-- Reads the statement that comes behind `index` others again, as one of a module. What has been
found to be wrong since the first reading does not count. -/
def rereadStatement (g : Grammar) (body : List Stmt) (index : Nat) (before : State) :
    Parse (List Stmt) := do
  rewind before
  let s ← within (fun c => { c with inAsync := true }) (g.statement .top)
  return body.take index ++ s :: body.drop (index + 1)

/-- Reads doubtful statements again if the source has turned out a module. -/
def settle (g : Grammar) (r : Reading) : Parse (List Stmt) := do
  let s ← get
  let body := r.statements.reverse
  if s.dialect.goal = .undecided && s.memory.isModule && !r.doubtful.isEmpty then
    r.doubtful.reverse.foldlM (fun body (index, before) => rereadStatement g body index before) body
  else
    match r.fatal? with
    | some e => throw e
    | none => return body

def State.fault? (s : State) : Option SyntaxError :=
  let here : SyntaxError := ⟨.misplaced, s.token.span.start⟩
  if !s.complaints.isEmpty then s.complaints.getLast?
  else if let some offset := s.memory.initializers.getLast? then some ⟨.unexpected, offset⟩
  else if !s.dialect.types && !decide s.memory.exported.Nodup then
    some { here with fault := .repeatedExport }
  else if s.dialect.goal = .undecided && s.memory.awaitUsed && !s.memory.isModule then some here
  else none

/-- Parses all of the text. Strings at its beginning are directives and no statements. -/
def program (g : Grammar) : Parse Program := do
  advance
  let body ← settle g (← readStatements g)
  match (← get).fault? with
  | some e => throw e
  | none => return body.dropWhile isDirective

/-- Parses a source. No source is nested more deeply than sixteen times its length. -/
def parse (dialect : Dialect) (source : String) : Except SyntaxError Program :=
  let cs := source.toList
  let g := Grammar.ofDepth (16 * cs.length + 64)
  ((program g).run.run (State.initial dialect cs)).1

end ExportLint.Parser

import ExportLint.Parser.Expression

/-!
Declarations of variables, functions, classes and types. What is to be done with the names of
variables, functions and classes is a parameter, since their names are of interest even if the rest
of the declaration cannot be read.
-/

namespace ExportLint.Parser

variable (g : Grammar)

def ignored (_ : List String) : Parse Unit := pure ()

/-! ### Variables -/

structure Variable where
  pattern : Pattern
  /-- The parts of its type and of its initializer. -/
  nodes : List Node
  initialized : Bool
deriving Inhabited

def Variable.parts (vs : List Variable) : List Node :=
  vs.flatMap fun v => v.pattern.nodes ++ v.nodes

/-- Takes the mark behind a name that says that the variable gets its value elsewhere. -/
def definiteMark (p : Pattern) : Parse Bool := do
  if (← typed) && p.isName && !(← afterNewline) then eatMark "!" else return false

def declarator (note : List String → Parse Unit) : Parse Variable := do
  let p ← g.pattern
  note p.names
  let definite ← definiteMark p
  let annotated ← atMark ":"
  let t ← annotation? g
  let initialized ← eatMark "="
  let init ← if initialized then pure [Node.expr (← single g)] else pure []
  check (!definite || (annotated && !initialized)) .misplaced
  return ⟨p, t ++ init, initialized⟩

def declarators (note : List String → Parse Unit) : Parse (List Variable) := do
  let first ← declarator g note
  let more ← collect do
    if ← eatMark "," then return some (← declarator g note) else return none
  return first :: more

/-- Complains about variables without an initializer. Constants and patterns need one unless they
are defined elsewhere. -/
def checkInitialized (word : String) (vs : List Variable) : Parse Unit := do
  let complete := vs.all fun v => v.initialized || (v.pattern.isName && word != "const")
  check (complete || (← context).ambient) .missing

def variableDeclaration (note : List String → Parse Unit) (word : String) (found : List String) :
    Parse (List Node) := do
  expectWord word
  let vs ← declarators g note
  checkInitialized word vs
  semicolon
  checkModifiers found ["declare"]
  return Variable.parts vs

/-- Whether `using` at hand declares variables. -/
def beforeResource : Parse Bool := nextHere atName

def atResources : Parse Bool := do
  if ← atWord "using" then beforeResource
  else if ← atWord "await" then
    nextHere (do if ← atWord "using" then beforeResource else return false)
  else return false

def resources : Parse (List Variable) := do
  let _ ← eatWord "await"
  expectWord "using"
  let vs ← declarators g ignored
  check (vs.all (·.pattern.isName)) .misplaced
  return vs

/-- A declaration of variables that are disposed of, each with an initializer. -/
def resourceDeclaration : Parse (List Node) := do
  let vs ← resources g
  check (vs.all (·.initialized)) .missing
  semicolon
  return Variable.parts vs

/-! ### Functions and classes -/

def atFunction : Parse Bool := do
  if ← atWord "async" then nextHere (atWord "function") else atWord "function"

/-- Takes the name of a function or class, if there is one; `named` says that it must have one. -/
def declaredName (note : List String → Parse Unit) (named present : Bool) : Parse Unit := do
  if present then note [← takeName] else check (!named) .missing

/-- A declared function; `named` says that it must have a name. -/
def functionDeclaration (note : List String → Parse Unit) (named : Bool) (place : Place)
    (found : List String) : Parse (List Node) := do
  let isAsync := (← eatWord "async") || found.contains "async"
  expectWord "function"
  let isGenerator ← eatMark "*"
  declaredName note named (← atName)
  let f ← functionRest g .function isAsync isGenerator false
  check (place ≠ .alone || !(isAsync || isGenerator)) .misplaced
  check (!(found.contains "declare" && (f.hasBody || isGenerator))) .misplaced
  checkModifiers found ["declare", "async"]
  return f.nodes

/-- A declared class, from the word `class` or what stands for it on; `named` says that it must have
a name. -/
def classDeclaration (note : List String → Parse Unit) (named : Bool) (place : Place)
    (found : List String) : Parse (List Node) := do
  let ns ← classFrom g (declaredName note named) found
  check (place ≠ .alone) .misplaced
  return ns

/-! ### Types -/

def isEntity : Expr → Bool
  | .identifier _ _ => true
  | .compound _ .other [] => true
  | .compound _ .instantiated (.expr inner :: _) => isEntity inner
  | .parenthesized _ inner => isEntity inner
  | .member _ object _ => isEntity object
  | _ => false

def interfaceDeclaration (found : List String) : Parse (List Node) := do
  expectWord "interface"
  let _ ← takeName
  let ts ← typeParameters? g
  let inherited ← heritage g
  let members ← objectType g
  check (inherited.implemented?.isNone && inherited.bases.all (isEntity ·.1)) .misplaced
  checkModifiers found ["declare"]
  return ts.getD [] ++ inherited.nodes ++ members

def aliased : Parse (List Node) := do
  if ← eatWord "intrinsic" then
    if ← eatMark "." then
      qualifiedName
      typeArgumentsHere? g
    else return []
  else return (← g.type).nodes

def aliasDeclaration (found : List String) : Parse (List Node) := do
  expectWord "type"
  let _ ← takeName
  let ts ← typeParameters? g
  expectMark "="
  let t ← aliased g
  semicolon
  checkModifiers found ["declare"]
  return ts.getD [] ++ t

def enumKey : Parse Unit := do
  match ← propertyKey g with
  | .word _ _ | .expr (.string _ _) | .expr (.template _ _ []) => return
  | _ => unexpected

def enumMember : Parse (List Node) := do
  enumKey g
  initializer? g

def enumDeclaration (found : List String) : Parse (List Node) := do
  expectWord "enum"
  let _ ← takeName
  expectMark openBrace
  let members ← commaList closeBrace (enumMember g)
  checkModifiers found ["declare", "const"]
  return members.flatten

/-! ### Namespaces -/

def namespaceBody : Parse (List Node) :=
  return ((← block g).dropWhile isDirective).map .stmt

def namespaceRest : Parse (List Node) := do
  let _ ← takeName
  let _ ← collect do
    if ← eatMark "." then return some (← takeName) else return none
  namespaceBody g

def namespaceDeclaration (found : List String) : Parse (List Node) := do
  let isModule ← atWord "module"
  takeKeyword
  let ns ← if isModule && (← atString) then do
      advance
      if ← atMark openBrace then namespaceBody g
      else
        semicolon
        pure []
    else namespaceRest g
  checkModifiers found ["declare"]
  return ns

def globalDeclaration (found : List String) : Parse (List Node) := do
  expectWord "global"
  let ns ← namespaceBody g
  checkModifiers found ["declare"]
  return ns

/-- What an imported name stands for, from the equals sign on: a module, or a name in one. -/
def importedEntity : Parse Unit := do
  expectMark "="
  if ← eatWord "require" then
    expectMark "("
    let _ ← takeString
    expectMark ")"
  else qualifiedName
  semicolon

def entityImport : Parse (List Node) := do
  expectWord "import"
  let isType ← atWord "type"
  let _ ← takeName
  if isType && (← atName) then
    let _ ← takeName
  importedEntity
  return []

/-! ### Declarations with modifiers -/

/-- The modifiers before a declaration. A `const` is one before an enumeration. -/
def declarationModifiers : Parse (List String) := do
  let before ← modifiers false false
  if ← atWord "const" <&&> nextIs (atWord "enum") then
    takeKeyword
    return before ++ ["const"]
  else return before

/-- A declaration that only a source with types can hold, if one begins here. -/
def typedDeclaration? (word : String) (found : List String) : Parse (Option (List Node)) := do
  if !(← typed) then return none
  match word with
  | "namespace" | "module" => return some (← namespaceDeclaration g found)
  | "global" => return some (← globalDeclaration g found)
  | "type" => return some (← aliasDeclaration g found)
  | "enum" => return some (← enumDeclaration g found)
  | "interface" => return some (← interfaceDeclaration g found)
  | "import" => return some (← entityImport)
  | _ => return none

def declaration (note : List String → Parse Unit) (decorated : Bool) (found : List String) :
    Parse (List Node) := do
  match ← kind with
  | .word word _ =>
    check (!decorated || word == "class") .misplaced
    if let some ns := ← typedDeclaration? g word found then return ns
    else if word == "class" then classDeclaration g note true .inList found
    else if ["var", "let", "const"].contains word then variableDeclaration g note word found
    else if ← atFunction then functionDeclaration g note true .inList found
    else unexpected
  | _ => unexpected

/-- Words that the declaration of a type, or its modifiers, can begin with. -/
def declaringWords : List String :=
  ["abstract", "accessor", "async", "declare", "enum", "global", "interface", "module",
    "namespace", "private", "protected", "public", "readonly", "static", "type"]

def contextualWords : List String :=
  ["abstract", "accessor", "any", "as", "assert", "asserts", "async", "await", "bigint", "boolean",
    "constructor", "declare", "defer", "from", "get", "global", "implements", "infer", "interface",
    "intrinsic", "is", "keyof", "let", "meta", "module", "namespace", "never", "number", "object",
    "of", "out", "override", "package", "private", "protected", "public", "readonly", "require",
    "satisfies", "set", "source", "static", "string", "symbol", "target", "type", "undefined",
    "unique", "unknown", "using", "yield"]

/-- Whether the word behind `global` makes a declaration of it. -/
def canBeGlobal : Parse Bool := do
  if ← atMark openBrace then return true
  match ← kind with
  | .word w _ => return w == "export" || (canName w && !contextualWords.contains w)
  | _ => return false

/-- Whether the word at hand begins a declaration, perhaps behind modifiers. -/
def atTypedDeclaration : Parse Bool :=
  wouldBe <| untilDone (fun _ => do
    match ← kind with
    | .word w _ =>
      match w with
      | "var" | "let" | "const" | "function" | "class" | "enum" => return .inr true
      | "interface" | "type" => return .inr (← nextHere atName)
      | "module" | "namespace" =>
        return .inr (← nextHere (do return (← atName) || (← atString)))
      | "abstract" | "accessor" | "async" | "declare" | "private" | "protected" | "public"
      | "readonly" =>
        advance
        if ← afterNewline then return .inr false else return .inl ()
      | "global" => return .inr (← nextIs canBeGlobal)
      | "import" =>
        return .inr (← nextIs do
          return (← atSomeWord) || (← atString) || (← atAnyMark ["*", openBrace]))
      | "static" =>
        advance
        return .inl ()
      | _ => return .inr false
    | _ => return .inr false) ()

/-- Runs the parser of a declaration in the context that its modifiers say. -/
def declaring {α : Type} (found : List String) (p : Parse α) : Parse α :=
  within (fun c => { c with ambient := c.ambient || found.contains "declare" }) p

/-- A declaration with its modifiers. Nothing is awaited in it. -/
def modifiedDeclaration : Parse (List Node) := do
  let found ← declarationModifiers
  within (fun c => { c with inAsync := false }) <|
    declaring found (declaration g ignored false found)

end ExportLint.Parser

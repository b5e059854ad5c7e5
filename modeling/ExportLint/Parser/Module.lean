import ExportLint.Parser.Declaration

/-!
Imports and exports.
-/

namespace ExportLint.Parser

variable (g : Grammar)

def noteExports (place : Place) (names : List String) : Parse Unit :=
  if place = .top then learn fun m => { m with exported := names.reverse ++ m.exported }
  else pure ()

def noteModule (place : Place) : Parse Unit :=
  if place = .top then learn fun m => { m with isModule := true } else pure ()

/-- Words that cannot name a variable that is exported, besides those that never name one. -/
def unexportable : List String :=
  ["await", "implements", "interface", "package", "private", "protected", "public", "static",
    "yield"]

structure ModuleName where
  name : String
  isString : Bool
deriving Inhabited

def ModuleName.isLocal (n : ModuleName) : Bool :=
  !n.isString && canName n.name && !unexportable.contains n.name

/-- A name in an import or export list. A string must be text. -/
def moduleName : Parse ModuleName := do
  match ← kind with
  | .string _ lossy =>
    check (!lossy) .badEscape
    return ⟨← takeString, true⟩
  | _ => return ⟨← takeWord, false⟩

def atModuleName : Parse Bool := do return (← atSomeWord) || (← atString)

def moduleAttribute : Parse String := do
  let name ← if ← atString then takeString else takeWord
  expectMark ":"
  let _ ← takeString
  return name

/-- The attributes of an import, if there are any. None is given twice. -/
def attributes? : Parse Unit := do
  if (← atWord "with") || ((← atWord "assert") && !(← afterNewline)) then
    takeKeyword
    expectMark openBrace
    let names ← commaList closeBrace moduleAttribute
    check (decide names.Nodup) .repeated

def moduleSource : Parse Unit := do
  let _ ← takeString
  attributes?

/-- The module behind `from`. -/
def fromClause : Parse Unit := do
  expectWord "from"
  moduleSource
  semicolon

/-- Whether `type` at hand, before a name in a list, marks a type. It is a name itself if `as`
follows it, unless that is the name. -/
def marksType : Parse Bool :=
  nextIs do
    if ← eatWord "as" then
      if ← eatWord "as" then atModuleName
      else return !(← atModuleName)
    else atModuleName

/-- Takes the word that marks a type in a list, which must not be `marked` as one of types. -/
def typeMarker (marked : Bool) : Parse Unit := do
  if ← typed <&&> atWord "type" <&&> marksType then
    check (!marked) .repeated
    takeKeyword

/-! ### Imports -/

/-- An imported name and the name it gets here, which is no operator anywhere. -/
def importSpecifier (marked : Bool) : Parse Unit := do
  typeMarker marked
  if ← nextIs (atWord "as") then
    let _ ← moduleName
    expectWord "as"
  check (!(← atAnyWord ["await", "yield"])) .misplaced
  let _ ← takeName

def namedImports (marked : Bool) : Parse Unit := do
  expectMark openBrace
  let _ ← commaList closeBrace (importSpecifier marked)

def namespaceImport : Parse Unit := do
  expectMark "*"
  expectWord "as"
  let _ ← takeName

def importedNames (marked : Bool) : Parse Unit := do
  if ← atMark "*" then namespaceImport else namedImports marked

/-- Whether `type` at hand marks what is imported: a clause follows it. -/
def beforeTypeClause : Parse Bool :=
  nextIs do
    if ← atWord "from" then nextIs (atWord "from")
    else return (← atName) || (← atAnyMark ["*", openBrace])

/-- What an import takes from a module, with the module, from behind a name on if there is one. More
names may follow one that is neither marked as a type nor could be such a mark. -/
def importRest (place : Place) (marked : Bool) (name? : Option String) : Parse Unit := do
  noteModule place
  match name? with
  | none => importedNames marked
  | some name =>
    if ← eatMark "," then
      check (!marked && !((← typed) && name == "type")) .misplaced
      importedNames marked
  fromClause

/-- What an import takes from a module, with the module, or what it gives another name. -/
def importClause (place : Place) (marked : Bool) : Parse Unit := do
  let name? ← if ← atName then some <$> takeName else pure none
  if ← pure name?.isSome <&&> typed <&&> atMark "=" then importedEntity
  else importRest place marked name?

def phasedImport (place : Place) (imported : Parse Unit) : Parse Unit := do
  noteModule place
  takeKeyword
  imported
  fromClause

def importDeclaration (place : Place) : Parse Stmt := do
  let start ← startOffset
  expectWord "import"
  if ← atString then
    noteModule place
    moduleSource
    semicolon
  else if ← atWord "source" <&&> nextIs (atName <&&> nextIs (atWord "from")) then
    phasedImport place do
      let _ ← takeName
  else if ← atWord "defer" <&&> nextIs (atMark "*") then
    phasedImport place namespaceImport
  else if ← typed <&&> atWord "type" <&&> beforeTypeClause then
    takeKeyword
    importClause place true
  else importClause place false
  return .compound (← spanFrom start) []

/-! ### Exports -/

def defaultClass? (before : List Node) : Parse (Option (List Node)) := do
  let isAbstract ← atWord "abstract" <&&> nextHere (atWord "class")
  if isAbstract then takeKeyword
  if ← atWord "class" then
    return some (before ++ (← classDeclaration g ignored false .inList []))
  else return none

def atDefaultInterface : Parse Bool :=
  atWord "interface" <&&> nextHere (return true)

/-- What `export default` exports. -/
def defaultExport (before : List Node) : Parse Node := do
  let start ← startOffset
  if let some ns := ← defaultClass? g before then return .stmt (.compound (← spanFrom start) ns)
  check before.isEmpty .misplaced
  if ← atFunction then
    let ns ← functionDeclaration g ignored false .inList []
    return .stmt (.compound (← spanFrom start) ns)
  else if ← atDefaultInterface then
    let ns ← interfaceDeclaration g []
    return .stmt (.compound (← spanFrom start) ns)
  else
    let e ← single g
    semicolon
    return .expr e

def exportSpecifier (marked : Bool) : Parse (ModuleName × String) := do
  typeMarker marked
  let exported ← moduleName
  if ← eatWord "as" then return (exported, (← moduleName).name)
  else return (exported, exported.name)

def atLiteral : Parse Bool := do
  return (← atString) || (← atNumber) || (← atAnyWord ["true", "false", "null"])

/-- A list of exported names. Without a module to take them from they name variables. -/
def namedExports (place : Place) (marked : Bool) : Parse Unit := do
  expectMark openBrace
  let specifiers ← commaList closeBrace (exportSpecifier marked)
  if (← eatWord "from") && (← atLiteral) then moduleSource
  else check (specifiers.all (·.1.isLocal)) .misplaced
  semicolon
  noteExports place (specifiers.map (·.2))

def starExport (place : Place) : Parse Unit := do
  expectMark "*"
  if ← eatWord "as" then noteExports place [(← moduleName).name]
  fromClause

/-- More decorators, behind `export`. They stand in one of the two places. -/
def innerDecorators (before : List Node) : Parse (List Node) := do
  let more ← decorators g
  check (before.isEmpty || more.isEmpty) .misplaced
  return before ++ more

/-- An exported class with decorators behind `export`. The token behind them and the modifiers is
taken for the word `class`. -/
def decoratedExport (place : Place) (before : List Node) : Parse (List Node) := do
  let all ← innerDecorators g before
  let found ← modifiers false false
  let ns ← classDeclaration g (noteExports place) true .inList found
  return all ++ ns

def exportedDeclaration (place : Place) (before : List Node) : Parse (List Node) := do
  let found ← if ← typed then declarationModifiers else pure []
  let ns ← declaring found (declaration g (noteExports place) (!before.isEmpty) found)
  return before ++ ns

def typedExport? : Parse (Option (List Node)) := do
  if !(← typed) then return none
  if ← eatMark "=" then
    let e ← single g
    semicolon
    return some [.expr e]
  else if ← atWord "as" <&&> nextIs (atWord "namespace") then
    takeKeyword
    takeKeyword
    let _ ← takeWord
    semicolon
    return some []
  else if ← atWord "import" then return some (← entityImport)
  else return none

def exported (place : Place) (before : List Node) : Parse (List Node) := do
  if let some ns := ← typedExport? g then
    check before.isEmpty .misplaced
    return ns
  let marked ← typed <&&> atWord "type" <&&> nextIs (atAnyMark [openBrace, "*"])
  if marked then takeKeyword
  if ← atMark "*" then
    check before.isEmpty .misplaced
    starExport place
    return []
  else if ← atMark openBrace then
    check before.isEmpty .misplaced
    namedExports place marked
    return []
  else if ← atMark "@" then decoratedExport g place before
  else exportedDeclaration g place before

def exportDeclaration (place : Place) (before : List Node) : Parse Stmt := do
  let start ← startOffset
  expectWord "export"
  noteModule place
  if ← eatWord "default" then
    noteExports place ["default"]
    let all ← innerDecorators g before
    let n ← defaultExport g all
    return .exportDefault (← spanFrom start) n
  else
    let ns ← exported g place before
    return .compound (← spanFrom start) ns

end ExportLint.Parser

import ExportLint.Parser.Grammar

/-!
Modifiers: words that say more about what follows them. Such a word is a modifier only if it is
followed by something it can modify; otherwise it is a name.
-/

namespace ExportLint.Parser

def modifierWords : List String :=
  ["abstract", "accessor", "async", "const", "declare", "default", "export", "in", "out",
    "override", "private", "protected", "public", "readonly", "static"]

def accessWords : List String := ["public", "private", "protected"]

def canBeModified : Parse Bool := do
  match ← kind with
  | .word _ _ | .hidden _ | .string _ _ | .number _ | .bigint _ => return true
  | .mark m => return m == "[" || m == openBrace || m == "*" || m == "..."
  | _ => return false

def atKey : Parse Bool := do
  match ← kind with
  | .word _ _ | .hidden _ | .string _ _ | .number _ | .bigint _ => return true
  | .mark m => return m == "["
  | _ => return false

/-- Whether the current token can follow `default`. -/
def canBeDefault : Parse Bool := do
  if (← atAnyWord ["class", "function", "interface"]) || (← atMark "@") then return true
  if ← atWord "abstract" then nextHere (atWord "class")
  else if ← atWord "async" then nextHere (atWord "function")
  else return false

/-- Whether the current token can follow `export` as a modifier. -/
def canBeExported : Parse Bool := do
  if ← atMark "@" then return true
  if (← atAnyMark ["*", openBrace]) || (← atWord "as") then return false
  canBeModified

def modifiesNext (word : String) : Parse Bool :=
  match word with
  | "export" => nextIs do
    if ← atWord "default" then nextIs canBeDefault
    else if ← atWord "type" then nextIs canBeExported
    else canBeExported
  | "static" => nextIs canBeModified
  | _ => nextHere canBeModified

def checkModifier (before : List String) (word : String) : Parse Unit := do
  check (!before.contains word) .repeated
  check (!(accessWords.contains word && before.any accessWords.contains)) .repeated

/-- The modifiers at the current place. A `const` is one only if `permitConst`, and a `static` only
if no other came before; a `static` with a block behind it is none if `inClass`. -/
def modifiers (permitConst inClass : Bool) : Parse (List String) :=
  untilDone (fun before => do
    match ← kind with
    | .word w _ =>
      let isBlock ← if inClass && w == "static" then nextIs (atMark openBrace) else pure false
      let excluded := (w == "const" && !permitConst) || (w == "static" && before.contains w)
      let candidate := modifierWords.contains w && !excluded && !isBlock
      if ← pure candidate <&&> modifiesNext w then
        checkModifier before w
        takeKeyword
        return .inl (before ++ [w])
      else return .inr before
    | _ => return .inr before) []

def checkModifiers (found allowed : List String) : Parse Unit :=
  check (found.all allowed.contains) .misplaced

/-- Whether `get` or `set` at hand makes an accessor of what follows it. -/
def beforeKey : Parse Bool := nextIs atKey

/-- Takes `get` or `set` before a name. -/
def eatAccessor (word : String) : Parse Bool := do
  if ← atWord word <&&> beforeKey then
    takeKeyword
    return true
  else return false

end ExportLint.Parser

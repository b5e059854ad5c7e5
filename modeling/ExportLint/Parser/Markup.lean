import ExportLint.Parser.Type

/-!
Markup in expressions. Between tags text is read as it is, so the token behind a tag depends on
whether more markup is around it.
-/

namespace ExportLint.Parser

variable (g : Grammar)

/-- Takes a name in a tag. Names are compared as they are written, so one with an escape in it
differs from the name it stands for. -/
def markupWord : Parse String := do
  let s ← get
  match s.token.kind with
  | .word w escaped =>
    let (more, bytes, rest) := markupName 0 [] s.rest
    let stop := s.token.span.stop + bytes
    set { s with
      token := { s.token with span := ⟨s.token.span.start, stop⟩ }
      rest := rest
      offset := stop }
    advance
    return (if escaped then "\\" ++ w else w) ++ more
  | _ => unexpected

def memberWord : Parse String := do
  let w ← markupWord
  require (!w.contains '-') .unexpected
  return w

/-- The name of an element: a name, perhaps with one behind a colon or some behind points. -/
def elementName : Parse String := do
  let first ← markupWord
  if ← eatMark ":" then return first ++ ":" ++ (← markupWord)
  else
    let more ← collect do
      if ← eatMark "." then return some ("." ++ (← memberWord)) else return none
    return more.foldl (· ++ ·) first

def contained : Parse (List Node) := do
  expectMark openBrace
  let e ← within (fun c => { c with inDecorator := false }) (single g)
  require (← atMark closeBrace) .unexpected
  return [.expr e]

def containedSpread : Parse (List Node) := do
  expectMark openBrace
  expectMark "..."
  let e ← expression g
  require (← atMark closeBrace) .unexpected
  return [.expr e]

def attributeValue : Parse (List Node) := do
  match ← kind with
  | .string _ _ =>
    advance
    return []
  | .mark "\x7b" =>
    let ns ← contained g
    advance
    return ns
  | .mark "<" =>
    let ns ← g.element
    advance
    return ns
  | _ => unexpected

def attributeLexer : Lexer := fun cs =>
  match cs with
  | '"' :: rest => attributeString '"' rest
  | '\x27' :: rest => attributeString '\x27' rest
  | cs => token cs

def tagAttribute : Parse (List Node) := do
  if ← atMark openBrace then
    let ns ← containedSpread g
    advance
    return ns
  else
    let _ ← markupWord
    if ← eatMark ":" then
      let _ ← markupWord
    if ← atMark "=" then
      advanceWith attributeLexer
      attributeValue g
    else return []

/-- The closing tag of an element called `name`, up to its end. -/
def closingTag (name : String) : Parse Unit := do
  expectMark "<"
  expectMark "/"
  let closed ← if ← atMark ">" then pure "" else elementName
  require (closed == name && (← atMark ">")) .unexpected

def child : Parse (List Node) := do
  if ← nextIs (atMark closeBrace) then
    expectMark openBrace
    return []
  else if ← nextIs (atMark "...") then containedSpread g
  else contained g

/-- What stands between the tags of an element called `name`, with the closing tag. -/
def children (name : String) : Parse (List Node) := do
  advanceHere markupChild
  let parts ← collect do
    match ← kind with
    | .markupText =>
      advanceHere markupChild
      return some []
    | .mark "<" =>
      if ← nextIs (atMark "/") then return none
      let ns ← g.element
      advanceHere markupChild
      return some ns
    | _ =>
      let ns ← child g
      advanceHere markupChild
      return some ns
  closingTag name
  return parts.flatten

/-- The parts of an element, up to the `>` that ends it. -/
def element : Parse (List Node) := do
  expectMark "<"
  if ← atMark ">" then children g ""
  else
    let name ← elementName
    let ts ← if ← typed then typeArguments? g else pure []
    let attributes ← collect do
      if ← atAnyMark [">", "/"] then return none
      return some (← tagAttribute g)
    if ← eatMark "/" then
      require (← atMark ">") .unexpected
      return ts ++ attributes.flatten
    else return ts ++ attributes.flatten ++ (← children g name)

end ExportLint.Parser

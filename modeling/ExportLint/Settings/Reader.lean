import ExportLint.Json.Pass
import ExportLint.Binary64.Shortest
import ExportLint.Text.Quoted
import ExportLint.Settings

/-!
Reading settings from a JSON document. The document is an object whose member `rules` is an object
of levels, or a list of that object alone. The first fault met decides.
-/

namespace ExportLint

open Json (Fault)

namespace Settings

inductive Found where
  | null
  | boolean (value : Bool)
  | number (value : Json.NumberValue)
  | string (value : String)
  | list
  | object
deriving DecidableEq, Repr, Inhabited

inductive Wanted where
  | document
  | rules
deriving DecidableEq, Repr, Inhabited

inductive ReadError where
  | text (fault : Fault)
  | wrongType (found : Found) (wanted : Wanted)
  | repeatedRules
  | levelNumber (n : Nat)
  | levelName (name : String)
  /-- A level that is neither a natural number nor a string. -/
  | levelType
deriving DecidableEq, Repr, Inhabited

namespace Found

def describe : Found → String
  | null => "null"
  | boolean value => "boolean `" ++ (if value then "true" else "false") ++ "`"
  | number (.natural n) => "integer `" ++ toString n ++ "`"
  | number (.negative n) => "integer `-" ++ toString n ++ "`"
  | number (.real negative x) =>
    "floating point `" ++ (if negative then "-" else "") ++ x.text ++ "`"
  | string value => "string " ++ Text.quoted value
  | list => "sequence"
  | object => "map"

end Found

namespace Wanted

def describe : Wanted → String
  | document => "struct RulesConfig"
  | rules => "a map"

end Wanted

namespace ReadError

def message : ReadError → String
  | text fault => fault.message
  | wrongType found wanted =>
    "invalid type: " ++ found.describe ++ ", expected " ++ wanted.describe
  | repeatedRules => "duplicate field `rules`"
  | levelNumber n => "invalid rule level " ++ toString n ++ ", expected 0, 1 or 2"
  | levelName name =>
    "invalid rule level \"" ++ name ++ "\", expected \"off\", \"warn\" or \"error\""
  | levelType => "data did not match any variant of untagged enum RawRuleLevel"

end ReadError

namespace Reader

def lift {α : Type} : Except Fault α → Except ReadError α
  | .ok a => .ok a
  | .error fault => .error (.text fault)

def found (cs : List Char) : Except Fault Found :=
  match cs with
  | 'n' :: cs => (Json.word ['u', 'l', 'l'] cs).map fun _ => .null
  | 't' :: cs => (Json.word ['r', 'u', 'e'] cs).map fun _ => .boolean true
  | 'f' :: cs => (Json.word ['a', 'l', 's', 'e'] cs).map fun _ => .boolean false
  | '"' :: cs => (Json.string cs).map fun s => .string s.1
  | '[' :: _ => .ok .list
  | '\x7b' :: _ => .ok .object
  | c :: cs =>
    if c = '-' ∨ c.isDigit then (Json.number (c :: cs)).map fun n => .number n.1
    else .error .expectedValue
  | [] => .error .endInValue

def refuse {α : Type} (wanted : Wanted) (cs : List Char) : Except ReadError α :=
  match found cs with
  | .ok found => .error (.wrongType found wanted)
  | .error fault => .error (.text fault)

/-- The next key of an object, or none at its end; the text comes from behind the key or the end.
`first` says that no key has been read yet. -/
def nextKey (first : Bool) (cs : List Char) : Except Fault (Option String × List Char) :=
  let key (cs : List Char) : Except Fault (Option String × List Char) :=
    (Json.string cs).map fun s => (some s.1, s.2)
  match first, Json.skipBlank cs with
  | _, [] => .error .endInObject
  | _, '\x7d' :: cs => .ok (none, cs)
  | true, '"' :: cs => key cs
  | true, _ => .error .keyNotString
  | false, ',' :: cs =>
    match Json.skipBlank cs with
    | '"' :: cs => key cs
    | '\x7d' :: _ => .error .trailingComma
    | [] => .error .endInValue
    | _ => .error .keyNotString
  | false, _ => .error .expectedCommaOrBrace

def levelOfNumber : Json.NumberValue → Except ReadError Level
  | .natural n =>
    match Level.ofNumber? n with
    | some level => .ok level
    | none => .error (.levelNumber n)
  | _ => .error .levelType

def levelOfName (name : String) : Except ReadError Level :=
  match Level.ofName? name with
  | some level => .ok level
  | none => .error (.levelName name)

/-- Reads a level. A value of another type is read to its end before it is refused. -/
def level (cs : List Char) : Except ReadError (Level × List Char) := do
  match Json.skipBlank cs with
  | '"' :: cs =>
    let (name, cs) ← lift (Json.string cs)
    return (← levelOfName name, cs)
  | cs =>
    if (cs.head?.map fun c => c == '-' || c.isDigit).getD false then
      let (n, cs) ← lift (Json.number cs)
      return (← levelOfNumber n, cs)
    else
      let _ ← lift (Json.passValue .full cs)
      .error .levelType

/-- Reads the members of an object of levels into `s`. A later level of a name replaces an earlier
one. -/
def levelsFrom : Nat → Bool → Settings → List Char → Except ReadError (Settings × List Char)
  | 0, _, _, _ => .error (.text .endInObject)
  | fuel + 1, first, s, cs => do
    let (key?, cs) ← lift (nextKey first cs)
    match key? with
    | none => return (s, cs)
    | some name =>
      let cs ← lift (Json.pastColon cs)
      let (l, cs) ← level cs
      levelsFrom fuel false (s.set name l) cs

def rules (cs : List Char) : Except ReadError (Settings × List Char) :=
  match Json.skipBlank cs with
  | [] => .error (.text .endInValue)
  | '\x7b' :: cs => levelsFrom (cs.length + 1) true empty cs
  | cs => refuse .rules cs

/-- Reads the members of a document. Members other than `rules` are passed over. -/
def membersFrom : Nat → Bool → Option Settings → List Char →
    Except ReadError (Settings × List Char)
  | 0, _, _, _ => .error (.text .endInObject)
  | fuel + 1, first, s?, cs => do
    let (key?, cs) ← lift (nextKey first cs)
    match key? with
    | none => return (s?.getD empty, cs)
    | some key =>
      if key = "rules" then
        if s?.isSome then .error .repeatedRules
        else
          let cs ← lift (Json.pastColon cs)
          let (s, cs) ← rules cs
          membersFrom fuel false (some s) cs
      else
        let cs ← lift (Json.pastColon cs)
        let cs ← lift (Json.passValue .passing cs)
        membersFrom fuel false s? cs

/-- Reads a document that is a list: its only item, if it has one, is the object of levels. -/
def listed (cs : List Char) : Except ReadError (Settings × List Char) :=
  match Json.skipBlank cs with
  | [] => .error (.text .endInList)
  | ']' :: cs => .ok (empty, cs)
  | cs => do
    let (s, cs) ← rules cs
    match Json.skipBlank cs with
    | ']' :: cs => return (s, cs)
    | [] => .error (.text .endInList)
    | ',' :: cs =>
      match Json.skipBlank cs with
      | ']' :: _ => .error (.text .trailingComma)
      | _ => .error (.text .trailingCharacters)
    | _ => .error (.text .trailingCharacters)

def document (cs : List Char) : Except ReadError (Settings × List Char) :=
  match Json.skipBlank cs with
  | [] => .error (.text .endInValue)
  | '[' :: cs => listed cs
  | '\x7b' :: cs => membersFrom (cs.length + 1) true none cs
  | cs => refuse .document cs

end Reader

def read (text : String) : Except ReadError Settings := do
  let (s, cs) ← Reader.document text.toList
  match Json.skipBlank cs with
  | [] => return s
  | _ => .error (.text .trailingCharacters)

end Settings

end ExportLint

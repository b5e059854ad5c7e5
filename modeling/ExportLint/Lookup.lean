import ExportLint.Tree

/-!
Looking up entries of an object literal by name. A key answers to its own name and, if that name is
itself written in double quotes, to the name inside them. The first entry that answers is meant.
-/

namespace ExportLint

structure Property where
  span : Span
  key : Key
  value : Expr
deriving Inhabited

structure ObjectLiteral where
  span : Span
  entries : List Entry
deriving Inhabited

namespace Key

/-- The name of a key, where the source gives it. A name in brackets counts as that name. -/
def name? : Key → Option String
  | word _ name => some name
  | expr (.identifier _ name) => some name
  | expr (.string _ value) => some value
  | _ => none

/-- All bytes of a key name but the first and the last. -/
def inside (key : String) : Span := ⟨1, Text.byteLength key.toList - 1⟩

/-- Whether a key name has two bytes more than `name`, and a quote at each end. -/
def wraps (key name : String) : Bool :=
  Text.byteLength key.toList == Text.byteLength name.toList + 2 &&
    key.toList.head? == some '"' && key.toList.getLast? == some '"'

/-- Whether the key name `key` answers to `name`. -/
def spells (key name : String) : Bool :=
  key == name || (wraps key name && (inside key).slice? key == some name.toList)

end Key

namespace Property

/-- Whether a property answers to `name`. -/
def answers (p : Property) (name : String) : Bool :=
  p.key.name?.any (Key.spells · name)

end Property

namespace Entry

def property? : Entry → Option Property
  | property span key value => some ⟨span, key, value⟩
  | spread _ _ => none

/-- The first property that answers to `name`. -/
def find? (name : String) (entries : List Entry) : Option Property :=
  entries.findSome? fun entry => entry.property?.filter (·.answers name)

def propsHolder? (entries : List Entry) : Option Property :=
  find? "props" entries <|> find? "propDefinitions" entries

end Entry

namespace ObjectLiteral

def find? (o : ObjectLiteral) (name : String) : Option Property :=
  Entry.find? name o.entries

def contains (o : ObjectLiteral) (name : String) : Bool :=
  (o.find? name).isSome

end ObjectLiteral

namespace Expr

/-- The object literal an expression is, through parentheses, if it has any entry. -/
def object? (e : Expr) : Option ObjectLiteral :=
  match e.bare with
  | .object span (entry :: entries) => some ⟨span, entry :: entries⟩
  | _ => none

end Expr

end ExportLint

import ExportLint.Settings.Reader

/-!
Writing levels as a JSON document. Rule names are written in order, and only what has to be escaped
is.
-/

namespace ExportLint.Settings

namespace Writer

def hexDigit (n : Nat) : Char :=
  if n < 10 then Char.ofNat ('0'.toNat + n) else Char.ofNat ('a'.toNat + (n - 10))

def escape (c : Char) : List Char :=
  match c with
  | '"' => ['\\', '"']
  | '\\' => ['\\', '\\']
  | '\x08' => ['\\', 'b']
  | '\x0c' => ['\\', 'f']
  | '\n' => ['\\', 'n']
  | '\r' => ['\\', 'r']
  | '\t' => ['\\', 't']
  | c =>
    if c < ' ' then ['\\', 'u', '0', '0', hexDigit (c.toNat / 16), hexDigit (c.toNat % 16)]
    else [c]

def string (s : String) : List Char :=
  '"' :: s.toList.flatMap escape ++ ['"']

def member (name : String) (value : List Char) : List Char :=
  string name ++ ':' :: value

def object (members : List (String × List Char)) : List Char :=
  '\x7b' :: [','].intercalate (members.map fun m => member m.1 m.2) ++ ['\x7d']

def document (levels : List (String × String)) : List Char :=
  let members := (levels.mergeSort fun a b => a.1 ≤ b.1).map fun l => (l.1, string l.2)
  object [("rules", object members)]

end Writer

/-- Settings from levels given as strings, by way of the document that says the same. -/
def ofNames (levels : List (String × String)) : Except ReadError Settings :=
  read (String.ofList (Writer.document levels))

end ExportLint.Settings

import ExportLint.Text.Span

/-!
Lines and columns. Only a line feed ends a line, and columns count characters.
-/

namespace ExportLint

structure Position where
  line : Nat
  column : Nat
deriving DecidableEq, Repr, Inhabited

namespace Position

def first : Position := ⟨1, 1⟩

def next (p : Position) (c : Char) : Position :=
  if c = '\n' then ⟨p.line + 1, 1⟩ else ⟨p.line, p.column + 1⟩

/-- The place after `cs`. -/
def after (cs : List Char) : Position :=
  cs.foldl next first

/-- The place of a byte offset. An offset beyond the text, or inside a character, stands for the
end of the text. -/
def ofOffset (source : String) (offset : Nat) : Position :=
  after ((Text.takeBytes offset source.toList).getD source.toList)

end Position

end ExportLint

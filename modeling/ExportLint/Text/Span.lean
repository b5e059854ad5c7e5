/-!
Stretches of source text, measured in UTF-8 bytes. A span need not fit the text it is used with:
the text of one that does not is empty.
-/

namespace ExportLint

/-- A stretch of source text from byte offset `start` up to byte offset `stop`. -/
structure Span where
  start : Nat
  stop : Nat
deriving DecidableEq, Repr, Inhabited

namespace Text

/-- The first `n` bytes of a text, if they end between two characters. -/
def takeBytes : Nat → List Char → Option (List Char)
  | 0, _ => some []
  | _ + 1, [] => none
  | n + 1, c :: cs =>
    if c.utf8Size ≤ n + 1 then (takeBytes (n + 1 - c.utf8Size) cs).map (c :: ·) else none

/-- What follows the first `n` bytes of a text, if they end between two characters. -/
def dropBytes : Nat → List Char → Option (List Char)
  | 0, cs => some cs
  | _ + 1, [] => none
  | n + 1, c :: cs => if c.utf8Size ≤ n + 1 then dropBytes (n + 1 - c.utf8Size) cs else none

def byteLength (cs : List Char) : Nat :=
  cs.foldr (fun c n => c.utf8Size + n) 0

end Text

namespace Span

/-- The characters under a span; none if the span is reversed, ends beyond the text or cuts a
character. -/
def slice? (s : Span) (source : String) : Option (List Char) :=
  if s.start ≤ s.stop then do
    let rest ← Text.dropBytes s.start source.toList
    Text.takeBytes (s.stop - s.start) rest
  else none

def text (s : Span) (source : String) : String :=
  String.ofList ((s.slice? source).getD [])

def le (a b : Span) : Bool :=
  a.start < b.start || (a.start == b.start && a.stop ≤ b.stop)

end Span

end ExportLint

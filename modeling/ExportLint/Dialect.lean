/-!
The dialect a source is written in, which the name of its file decides.
-/

namespace ExportLint

inductive Goal where
  /-- As a module: `await` is an operator outside functions. -/
  | module
  /-- As the body of a function: `return` may stand anywhere, `await` is a name outside
  functions. -/
  | script
  /-- As a module if it imports or exports anything, otherwise as a script. -/
  | undecided
deriving DecidableEq, Repr, Inhabited

structure Dialect where
  /-- Whether there are type annotations and declarations. -/
  types : Bool
  /-- Whether there is markup in expressions. -/
  markup : Bool
  /-- Whether the source only declares what is defined elsewhere. -/
  ambient : Bool
  goal : Goal
deriving DecidableEq, Repr, Inhabited

namespace Dialect

def plain : Dialect := ⟨false, false, false, .module⟩

def ofExtension? : String → Option Dialect
  | "js" => some { plain with goal := .undecided }
  | "mjs" => some plain
  | "cjs" => some { plain with goal := .script }
  | "jsx" => some { plain with markup := true, goal := .undecided }
  | "ts" => some { plain with types := true, goal := .undecided }
  | "mts" => some { plain with types := true }
  | "cts" => some { plain with types := true, goal := .script }
  | "tsx" => some { plain with types := true, markup := true, goal := .undecided }
  | _ => none

def lastComponent (path : List Char) : List Char :=
  ((path.splitOn '/').filter fun part => !part.isEmpty && part != ['.']).getLast?.getD []

/-- What follows the last dot of a file name. A dot at its very beginning does not count. -/
def extension? (name : List Char) : Option (List Char) :=
  let reversed := name.reverse
  match reversed.dropWhile (· != '.') with
  | _ :: _ :: _ => some (reversed.takeWhile (· != '.')).reverse
  | _ => none

/-- Whether one of the two parts before the extension of a file name is a `d`. Sources with types
that are called so hold declarations only. -/
def isDefinition (name : List Char) : Bool :=
  (((name.splitOn '.').reverse.drop 1).take 2).contains ['d']

def ofFilename (filename : String) : Dialect :=
  let name := lastComponent filename.toList
  match ((extension? name).map String.ofList).bind ofExtension? with
  | some d => { d with ambient := d.types && !d.markup && isDefinition name }
  | none => plain

end Dialect

end ExportLint

/-!
Sets of characters, given by the code points at which membership changes.
-/

namespace ExportLint.Text

/-- Whether `n` lies in the set whose membership changes at each of `changes`, in rising order;
`inside` says whether the numbers before the first change are members. -/
def memberOf (n : Nat) : Bool → List Nat → Bool
  | inside, [] => inside
  | inside, change :: changes => if n < change then inside else memberOf n (!inside) changes

end ExportLint.Text

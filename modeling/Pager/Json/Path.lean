import Pager.Json.Basic
import Pager.Text.Digits
import Pager.Text.Pieces

namespace Pager.Json

/-- The index a part stands for: decimal digits, with a plus sign in front or none, below
`2 ^ 64`. -/
def index? (part : String) : Option Nat :=
  Text.natBelow? (Nat.pow 2 64) part.toList

/-- One step down. -/
def child? (v : Json) (part : String) : Option Json :=
  match v with
  | .object fields => Fields.find? fields part
  | .list items => (index? part).bind fun i => items[i]?
  | _ => none

/-- The value reached by taking the steps one after another. -/
def descend : Json → List String → Option Json
  | v, [] => some v
  | v, part :: parts => (v.child? part).bind fun w => descend w parts

/-- The path without the mark of the root in front. -/
def stripRoot (path : String) : String :=
  match path.toList with
  | '$' :: '.' :: rest => String.ofList rest
  | _ => path

/-- The steps a path stands for. -/
def steps (path : String) : List String :=
  let path := stripRoot path
  if path = "" || path = "$" then [] else Text.splitOn '.' path

/-- The value at a dotted path. A part names a field of an object or, in decimal, an item of a list;
a path may begin with `$.`, and the empty path and `$` stand for the whole value. -/
def lookup (v : Json) (path : String) : Option Json :=
  v.descend (steps path)

theorem descend_append (v : Json) (front back : List String) :
    v.descend (front ++ back) = (v.descend front).bind fun w => w.descend back := by
  induction front generalizing v with
  | nil => rfl
  | cons part parts ih =>
    simp only [List.cons_append, descend]
    cases v.child? part with
    | none => rfl
    | some w => exact ih w

end Pager.Json

import Pager.Decimal.Notation
import Pager.Projection

namespace Pager

/-- Whether a cursor points at a further page; none and the empty one do not. -/
def hasCursor : Option String → Bool
  | some cursor => cursor != ""
  | none => false

/-- The text, unless it is empty. -/
def noneIfEmpty (text : Option String) : Option String :=
  text.filter (· ≠ "")

theorem noneIfEmpty_eq_some_iff {text : Option String} {s : String} :
    noneIfEmpty text = some s ↔ text = some s ∧ s ≠ "" := by
  simp [noneIfEmpty]

theorem noneIfEmpty_idem (text : Option String) : noneIfEmpty (noneIfEmpty text) = noneIfEmpty text := by
  simp [noneIfEmpty]

theorem hasCursor_noneIfEmpty (text : Option String) :
    hasCursor (noneIfEmpty text) = (noneIfEmpty text).isSome := by
  cases same : noneIfEmpty text with
  | none => rfl
  | some s => simp [hasCursor, (noneIfEmpty_eq_some_iff.mp same).2]

/-- The decoded answer to one list request, with its records and the cursor of the next page. -/
structure ListPage where
  body : Json
  items : List Json
  nextCursor : Option String
  deriving DecidableEq, Repr

namespace ListPage

/-- A cursor is a text that is not empty, or a number, taken by its digits. -/
def cursorText : Json → Option String
  | .text s => if s = "" then none else some s
  | .number (.whole i) => some (String.ofList (Decimal.intText i))
  | .number (.double x) => some (String.ofList (Decimal.doubleText x))
  | _ => none

/-- The records found at a path: a list's items, nothing for null or no value, any other value as
the one record. -/
def records : Option Json → List Json
  | some (.list items) => items
  | some .null => []
  | none => []
  | some v => [v]

def ofBody (body : Json) (cursorPath : String) (itemsPath? : Option String) : ListPage where
  body := body
  items := match itemsPath? with
    | some path => records (body.lookup path)
    | none => match body with
      | .list items => items
      | _ => []
  nextCursor := (body.lookup cursorPath).bind cursorText

end ListPage

instance : Viewable ListPage where
  toJson page := page.body
  items page _ := some (.list page.items)

end Pager

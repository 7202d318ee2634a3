import Pager.Parameters
import Pager.Projection
import Pager.Text.Blank

namespace Pager

/-- What an invocation emits. -/
inductive Selection
  | records
  | wholePage
  | atPath (path : String)
  | parameter (name : String)
  deriving DecidableEq, Repr

namespace Selection

/-- `*` is the whole page, `^Name` the value of a parameter, once after paging, and anything else a
dotted path into the page. -/
def ofText (expression : String) : Except Fault Selection :=
  let trimmed := Text.trim expression
  if trimmed = "" then .error (.invalidArgument "select" "expression cannot be empty")
  else if trimmed = "*" then .ok .wholePage
  else match trimmed.toList with
    | '^' :: rest =>
      let name := Text.trim (String.ofList rest)
      if name = "" then
        .error (.invalidArgument "select" "'^' must be followed by a parameter name")
      else .ok (.parameter name)
    | _ => .ok (.atPath trimmed)

def isParameter : Selection → Bool
  | .parameter _ => true
  | _ => false

/-- The projection of a selection; without a path to the records the whole page stands for them. -/
def toProjection {Page : Type} [Viewable Page] (records? : Option String) :
    Selection → Projection Page Invocation Json
  | .records =>
    match records? with
    | some path => .eachPage fun page _ => Viewable.items page path
    | none => .eachPage fun page _ => some (Viewable.toJson page)
  | .wholePage => .eachPage fun page _ => some (Viewable.toJson page)
  | .atPath path => .eachPage fun page _ => Viewable.select page path
  | .parameter name => .deferred fun invocation => invocation.parameter? name

end Selection

/-- What the caller wants emitted: a selection expression, or the primary parameter passed
through. -/
structure OutputOptions where
  select : Option String
  passThru : Bool
  deriving DecidableEq, Repr

/-- The selection the options stand for, when they make sense for the invocation. -/
def OutputOptions.resolve (options : OutputOptions) (invocation : Invocation) :
    Except Fault Selection := do
  let selection ← match options.select, options.passThru with
    | some _, true =>
      .error (.invalidArgument "pass_thru"
        "cannot be combined with select; use select '^<Parameter>' instead")
    | some expression, false => Selection.ofText expression
    | none, true =>
      match invocation.primary? with
      | some name => .ok (.parameter name)
      | none => .error (.invalidArgument "pass_thru" "operation has no parameter to pass through")
    | none, false => .ok .records
  match selection with
  | .parameter name =>
    if invocation.hasParameter name then .ok selection
    else .error (.invalidArgument "select" s!"'{name}' is not a parameter of this operation")
  | _ => .ok selection

end Pager

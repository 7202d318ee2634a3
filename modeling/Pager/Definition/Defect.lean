import Pager.Definition.Read
import Pager.Url.Basic

namespace Pager

namespace Definition

inductive Defect
  | unnamed
  | noBaseUrl
  | badBaseUrl (url : String) (cause : Url.Fault)
  | noOperation
  | repeatedOperation
  | unnamedOperation
  | noPath (operation : String)
  | noCursorParam (operation : String)
  | unnamedParameter (operation : String)
  | repeatedParameter (operation parameter : String)
  | requiredWithDefault (operation parameter : String)
  | emptyPages (operation : String)
  deriving DecidableEq, Repr

def Defect.message : Defect → String
  | .unnamed => "Definition name cannot be empty"
  | .noBaseUrl => "Definition base_url cannot be empty"
  | .badBaseUrl url cause => s!"Invalid base_url '{url}': {cause.message}"
  | .noOperation => "Definition must have at least one operation"
  | .repeatedOperation => "Duplicate operation names found"
  | .unnamedOperation => "Operation name cannot be empty"
  | .noPath op => s!"Operation '{op}' path cannot be empty"
  | .noCursorParam op => s!"Operation '{op}' cursor param cannot be empty"
  | .unnamedParameter op => s!"Operation '{op}' has a parameter with an empty name"
  | .repeatedParameter op p => s!"Operation '{op}' declares parameter '{p}' more than once"
  | .requiredWithDefault op p =>
    s!"Operation '{op}' parameter '{p}' cannot be required and have a default"
  | .emptyPages op => s!"Operation '{op}' page size must be greater than zero"

/-- Whether some name of the list is one of those after it. -/
def hasRepeat : List String → Bool
  | [] => false
  | name :: rest => rest.any (Text.sameName name) || hasRepeat rest

/-- The first defect of parameters that come after those of the given names. -/
def parameterDefect? (op : String) : List String → List ParameterDefinition → Option Defect
  | _, [] => none
  | seen, p :: rest =>
    if p.name = "" then some (.unnamedParameter op)
    else if seen.any (Text.sameName p.name) then some (.repeatedParameter op p.name)
    else if p.required && p.default.isSome then some (.requiredWithDefault op p.name)
    else parameterDefect? op (p.name :: seen) rest

def operationDefect? (op : OperationDefinition) : Option Defect :=
  if op.name = "" then some .unnamedOperation
  else if op.path = "" then some (.noPath op.name)
  else if op.cursor.param = "" then some (.noCursorParam op.name)
  else match parameterDefect? op.name [] op.parameters with
    | some defect => some defect
    | none =>
      match op.pageSize with
      | some size => if size.value = 0 then some (.emptyPages op.name) else none
      | none => none

/-- The first defect, in a fixed order. Without one the operations have different names, and the
parameters of each have, whatever the case of their ASCII letters. -/
def defect? (d : Definition) : Option Defect :=
  if d.name = "" then some .unnamed
  else if d.baseUrl = "" then some .noBaseUrl
  else match Url.ofText d.baseUrl with
    | .error cause => some (.badBaseUrl d.baseUrl cause)
    | .ok _ =>
      if d.operations.isEmpty then some .noOperation
      else if hasRepeat d.operationNames then some .repeatedOperation
      else d.operations.findSome? operationDefect?

/-- A usable definition out of a YAML text. -/
def load (text : String) : Except Fault Definition :=
  match ofYaml text with
  | .error misfit => .error (.config (misfitMessage misfit))
  | .ok d =>
    match d.defect? with
    | some defect => .error (.config defect.message)
    | none => .ok d

end Definition

end Pager

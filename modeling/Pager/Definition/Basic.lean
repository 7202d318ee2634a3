import Pager.Endpoint
import Pager.Text.Letters
import Pager.Transport.Backoff

namespace Pager

structure ParameterDefinition where
  name : String
  required : Bool
  default : Option String
  description : Option String
  deriving DecidableEq, Repr

structure CursorDefinition where
  param : String
  location : CursorLocation
  path : Option String
  deriving DecidableEq, Repr

/-- Where a page holds the next cursor; under the parameter's own name unless a path is given. -/
def CursorDefinition.responsePath (c : CursorDefinition) : String :=
  c.path.getD c.param

structure OperationDefinition where
  name : String
  description : Option String
  method : Method
  path : String
  parameters : List ParameterDefinition
  params : Fields String
  headers : Fields String
  body : Option Json
  cursor : CursorDefinition
  pageSize : Option PageSize
  itemsPath : Option String
  deriving DecidableEq, Repr

def OperationDefinition.parameterNames (op : OperationDefinition) : List String :=
  op.parameters.map ParameterDefinition.name

/-- Transport settings; delays are given in milliseconds, the time-out in seconds. -/
structure HttpDefinition where
  timeoutSecs : Nat
  maxRetries : Nat
  backoff : Growth
  initialBackoffMs : Nat
  maxBackoffMs : Nat
  userAgent : Option String
  deriving DecidableEq, Repr

def HttpDefinition.standard : HttpDefinition :=
  ⟨30, 0, .exponential, 100, 20000, none⟩

/-- A service described by its address, its transport settings and its list operations, each with
the parameters that a caller may bind. -/
structure Definition where
  name : String
  baseUrl : String
  http : HttpDefinition
  headers : Fields String
  operations : List OperationDefinition
  deriving DecidableEq, Repr

namespace Definition

/-- The operation of a name, whatever the case of its ASCII letters. -/
def operation? (d : Definition) (name : String) : Option OperationDefinition :=
  d.operations.find? fun op => Text.sameName op.name name

def operationNames (d : Definition) : List String :=
  d.operations.map OperationDefinition.name

end Definition

end Pager

import Pager.Fault
import Pager.Json.Basic

namespace Pager

/-- The parameters of one invocation: names declared in order, the first one primary, and the values
bound to them, each under the declared spelling. A name is looked up without regard to the case of
ASCII letters. -/
structure Parameters where
  declared : List String
  values : Fields String
  deriving DecidableEq, Repr

namespace Parameters

def ofNames (declared : List String) : Parameters :=
  ⟨declared, []⟩

/-- The declared spelling of a name. -/
def canonical? (p : Parameters) (name : String) : Option String :=
  p.declared.find? fun declared => Text.sameName declared name

def bind (p : Parameters) (name value : String) : Except Fault Parameters :=
  match p.canonical? name with
  | some canonical => .ok { p with values := p.values.put canonical value }
  | none => .error (.invalidArgument name "not a parameter of this operation")

/-- Binds pairs in order and stops at the first name that is not declared. -/
def bindAll (p : Parameters) : List (String × String) → Except Fault Parameters
  | [] => .ok p
  | (name, value) :: rest =>
    match p.bind name value with
    | .ok q => q.bindAll rest
    | .error fault => .error fault

def get? (p : Parameters) (name : String) : Option String :=
  (p.canonical? name).bind p.values.find?

def isBound (p : Parameters) (name : String) : Bool :=
  (p.get? name).isSome

/-- Every declared parameter with its value; one without a value is the empty text. -/
def toJson (p : Parameters) : Json :=
  Json.ofPairs (p.declared.map fun name => (name, .text ((p.values.find? name).getD "")))

end Parameters

/-- What a selection can ask of an invocation: the values of its parameters by name, null for a
parameter without one, which names are parameters, and the name of the primary one. -/
structure Invocation where
  parameter? : String → Option Json
  hasParameter : String → Bool
  primary? : Option String

def Parameters.invocation (p : Parameters) : Invocation where
  parameter? name :=
    (p.canonical? name).map fun canonical => Json.ofOption (p.values.find? canonical)
  hasParameter name := (p.canonical? name).isSome
  primary? := p.declared.head?

end Pager

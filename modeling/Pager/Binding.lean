import Pager.Definition.Basic
import Pager.Parameters
import Pager.Template.Render
import Pager.Transport.Settings
import Pager.Url.Basic

namespace Pager

structure Binding where
  endpoint : Endpoint
  parameters : Parameters
  transport : Transport.Settings
  deriving DecidableEq, Repr

def HttpDefinition.settings (http : HttpDefinition) : Transport.Settings :=
  { Transport.Settings.standard with
    timeout := .ofSeconds http.timeoutSecs
    maxRetries := http.maxRetries
    backoff := ⟨http.backoff, .ofMillis http.initialBackoffMs, .ofMillis http.maxBackoffMs⟩
    userAgent := http.userAgent.getD Transport.standardAgent }

namespace Definition

/-- Fills the defaults of the parameters that are not bound, in the order of their declaration. -/
def fillDefaults : List ParameterDefinition → Parameters → Except Fault Parameters
  | [], bound => .ok bound
  | p :: rest, bound =>
    if bound.isBound p.name then fillDefaults rest bound
    else match p.default with
      | some value => do fillDefaults rest (← bound.bind p.name value)
      | none => if p.required then .error (.missingParameter p.name) else fillDefaults rest bound

def bindParameters (op : OperationDefinition) (supplied : List (String × String)) :
    Except Fault Parameters := do
  fillDefaults op.parameters (← (Parameters.ofNames op.parameterNames).bindAll supplied)

/-- The parameter a variable refers to. -/
def referredParameter? (name : String) : Option String := do
  let path ← Text.afterPrefix "params.".toList name.toList
  let first ← (Text.pieces '.' path).head?
  some (String.ofList first)

/-- Whether a template refers to declared parameters only. -/
def refersToDeclared (template : String) (p : Parameters) : Bool :=
  ((Template.variableNames template).filterMap referredParameter?).all fun name =>
    (p.canonical? name).isSome

/-- The entries with their values rendered, without those that are then empty. -/
def renderEntries (ctx : Template.Context) :
    List (String × String) → Except Fault (List (String × String))
  | [] => .ok []
  | (name, template) :: rest => do
    let value ← Template.render ctx template
    let others ← renderEntries ctx rest
    if value = "" then .ok others else .ok ((name, value) :: others)

def renderTexts (ctx : Template.Context) (entries : List (String × String)) :
    Except Fault (Fields String) :=
  (renderEntries ctx entries).map Fields.ofPairs

/-- The body, if there is one, rendered and without its empty fields. -/
def renderBody (ctx : Template.Context) : Option Json → Except Fault (Option Json)
  | some template => (Template.renderValue ctx template).map fun v => some (Template.pruneEmpty v)
  | none => .ok none

/-- The pieces of a path, without the slashes it begins with. -/
def pathPieces (path : String) : List String :=
  (Text.pieces '/' (path.toList.dropWhile (· = '/'))).map String.ofList

/-- An absolute path is the address; any other one is put behind the base, piece by piece, so that
a value stays inside its own segment. -/
def address (base path : String) (ctx : Template.Context) : Except Fault String :=
  if Url.isWebAddress path then Template.render ctx path
  else match Url.ofText base with
    | .error cause => .error (.badUrl cause)
    | .ok url =>
      match url.path with
      | .rootless _ => .error (.config s!"base_url '{base}' cannot take a path")
      | .segments _ => do
        let pieces ← (pathPieces path).mapM (Template.render ctx)
        .ok ((url.extend? pieces).getD url).text

/-- The endpoint of an operation, with no template left in it, and the parameters and settings it
goes with. Whatever the caller got wrong shows here, before any request. -/
def bindOperation (d : Definition) (op : OperationDefinition) (env : Template.Environment)
    (supplied : List (String × String)) : Except Fault Binding := do
  let parameters ← bindParameters op supplied
  let ctx : Template.Context := ⟨parameters.toJson, some env⟩
  let url ← address d.baseUrl op.path ctx
  let query ← renderTexts ctx op.params
  let shared := d.headers.filter fun (_, template) => refersToDeclared template parameters
  let headers ← renderTexts ctx (shared ++ op.headers)
  let body ← renderBody ctx op.body
  .ok {
    endpoint := {
      name := op.name
      url, query, headers, body
      method := op.method
      cursor := ⟨op.cursor.param, op.cursor.location, op.cursor.responsePath⟩
      pageSize := op.pageSize
      itemsPath := op.itemsPath }
    parameters
    transport := d.http.settings }

/-- Binds the supplied pairs, in order, to the operation of a name. -/
def bind (d : Definition) (env : Template.Environment) (name : String)
    (supplied : List (String × String)) : Except Fault Binding :=
  match d.operation? name with
  | some op => bindOperation d op env supplied
  | none =>
    let available := Text.joinWith ", " d.operationNames
    .error (.invalidArgument "operation"
      s!"'{name}' is not defined; available operations: {available}")

end Definition

/-- The host an endpoint's address names, or the address itself when it is no URL. -/
def Endpoint.host (e : Endpoint) : String :=
  match Url.ofText e.url with
  | .ok url => url.host?.getD e.url
  | .error _ => e.url

end Pager

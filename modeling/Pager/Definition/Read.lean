import Pager.Definition.Basic
import Pager.Definition.Source
import Pager.Fault
import Pager.Json.Reader

namespace Pager

namespace Definition

variable {Place : Type}

/-- Reads a record field by field into a draft. The fields come in any order, each at most once;
those that are not known are passed over. -/
def readRecord {Draft : Type} (src : Source Place) (names : List String)
    (field : String → Place → Draft → Reading Draft) (empty : Draft) (p : Place) :
    Reading Draft := do
  let entries ← src.record names p
  let rec go : List (Place × Place) → List String → Draft → Reading Draft
    | [], _, draft => pure draft
    | (k, v) :: rest, seen, draft => do
      let name ← src.text k
      if names.contains name then
        if seen.contains name then .fail (.duplicateField name)
        else go rest (name :: seen) (← field name v draft)
      else do
        src.skip v
        go rest seen draft
  go entries [] empty

/-- The value of a field that has to be there; it is missed at the end of its record. -/
def required {α : Type} (name : String) : Option α → Reading α
  | some v => pure v
  | none => .fail (.missingField name)

def readOptional {α : Type} (src : Source Place) (read : Place → Reading α) (p : Place) :
    Reading (Option α) := do
  match ← src.optional p with
  | some p => some <$> read p
  | none => pure none

def readTexts (src : Source Place) (p : Place) : Reading (Fields String) := do
  let pairs ← (← src.entries p).mapM fun (k, v) => do
    let name ← src.text k
    let value ← src.text v
    pure (name, value)
  pure (Fields.ofPairs pairs)

def readList {α : Type} (src : Source Place) (read : Place → Reading α) (p : Place) :
    Reading (List α) := do
  (← src.items p).mapM read

def readMethod (src : Source Place) (p : Place) : Reading Method := do
  let word ← src.word ["GET", "POST"] p
  pure (if word = "POST" then .post else .get)

def readLocation (src : Source Place) (p : Place) : Reading CursorLocation := do
  let word ← src.word ["query", "body"] p
  pure (if word = "body" then .body else .query)

def readGrowth (src : Source Place) (p : Place) : Reading Growth := do
  let word ← src.word ["constant", "linear", "exponential"] p
  pure (if word = "constant" then .constant else if word = "linear" then .linear else .exponential)

/-- A parameter whose fields are not all known yet. -/
structure ParameterDraft where
  name : Option String
  required : Bool
  default : Option String
  description : Option String

def readParameter (src : Source Place) (p : Place) : Reading ParameterDefinition := do
  let draft ← readRecord src ["name", "required", "default", "description"]
    (fun name v (draft : ParameterDraft) => do
      match name with
      | "name" => pure { draft with name := some (← src.text v) }
      | "required" => pure { draft with required := ← src.flag v }
      | "default" => pure { draft with default := ← readOptional src src.text v }
      | _ => pure { draft with description := ← readOptional src src.text v })
    ⟨none, false, none, none⟩ p
  pure ⟨← required "name" draft.name, draft.required, draft.default, draft.description⟩

structure CursorDraft where
  param : Option String
  location : CursorLocation
  path : Option String

def readCursor (src : Source Place) (p : Place) : Reading CursorDefinition := do
  let draft ← readRecord src ["param", "location", "path"]
    (fun name v (draft : CursorDraft) => do
      match name with
      | "param" => pure { draft with param := some (← src.text v) }
      | "location" => pure { draft with location := ← readLocation src v }
      | _ => pure { draft with path := ← readOptional src src.text v })
    ⟨none, .query, none⟩ p
  pure ⟨← required "param" draft.param, draft.location, draft.path⟩

structure PageSizeDraft where
  param : Option String
  value : Option Nat

def readPageSize (src : Source Place) (p : Place) : Reading PageSize := do
  let draft ← readRecord src ["param", "value"]
    (fun name v (draft : PageSizeDraft) => do
      match name with
      | "param" => pure { draft with param := some (← src.text v) }
      | _ => pure { draft with value := some (← src.natural (Nat.pow 2 32) v) })
    ⟨none, none⟩ p
  pure ⟨← required "param" draft.param, ← required "value" draft.value⟩

def readHttp (src : Source Place) (p : Place) : Reading HttpDefinition :=
  readRecord src
    ["timeout_secs", "max_retries", "backoff", "initial_backoff_ms", "max_backoff_ms", "user_agent"]
    (fun name v (draft : HttpDefinition) => do
      match name with
      | "timeout_secs" => pure { draft with timeoutSecs := ← src.natural (Nat.pow 2 64) v }
      | "max_retries" => pure { draft with maxRetries := ← src.natural (Nat.pow 2 32) v }
      | "backoff" => pure { draft with backoff := ← readGrowth src v }
      | "initial_backoff_ms" =>
        pure { draft with initialBackoffMs := ← src.natural (Nat.pow 2 64) v }
      | "max_backoff_ms" =>
        pure { draft with maxBackoffMs := ← src.natural (Nat.pow 2 64) v }
      | _ => pure { draft with userAgent := ← readOptional src src.text v })
    .standard p

structure OperationDraft where
  name : Option String
  description : Option String
  method : Method
  path : Option String
  parameters : List ParameterDefinition
  params : Fields String
  headers : Fields String
  body : Option Json
  cursor : Option CursorDefinition
  pageSize : Option PageSize
  itemsPath : Option String

def readOperation (src : Source Place) (p : Place) : Reading OperationDefinition := do
  let draft ← readRecord src
    ["name", "description", "method", "path", "parameters", "params", "headers", "body", "cursor",
      "page_size", "items_path"]
    (fun name v (draft : OperationDraft) => do
      match name with
      | "name" => pure { draft with name := some (← src.text v) }
      | "description" => pure { draft with description := ← readOptional src src.text v }
      | "method" => pure { draft with method := ← readMethod src v }
      | "path" => pure { draft with path := some (← src.text v) }
      | "parameters" => pure { draft with parameters := ← readList src (readParameter src) v }
      | "params" => pure { draft with params := ← readTexts src v }
      | "headers" => pure { draft with headers := ← readTexts src v }
      | "body" => pure { draft with body := ← readOptional src src.json v }
      | "cursor" => pure { draft with cursor := some (← readCursor src v) }
      | "page_size" => pure { draft with pageSize := ← readOptional src (readPageSize src) v }
      | _ => pure { draft with itemsPath := ← readOptional src src.text v })
    ⟨none, none, .get, none, [], [], [], none, none, none, none⟩ p
  pure {
    name := ← required "name" draft.name
    description := draft.description
    method := draft.method
    path := ← required "path" draft.path
    parameters := draft.parameters
    params := draft.params
    headers := draft.headers
    body := draft.body
    cursor := ← required "cursor" draft.cursor
    pageSize := draft.pageSize
    itemsPath := draft.itemsPath }

structure Draft where
  name : Option String
  baseUrl : Option String
  http : HttpDefinition
  headers : Fields String
  operations : Option (List OperationDefinition)

def readDefinition (src : Source Place) (p : Place) : Reading Definition := do
  let draft ← readRecord src ["name", "base_url", "http", "headers", "operations"]
    (fun name v (draft : Draft) => do
      match name with
      | "name" => pure { draft with name := some (← src.text v) }
      | "base_url" => pure { draft with baseUrl := some (← src.text v) }
      | "http" => pure { draft with http := ← readHttp src v }
      | "headers" => pure { draft with headers := ← readTexts src v }
      | _ => pure { draft with operations := some (← readList src (readOperation src) v) })
    ⟨none, none, .standard, [], none⟩ p
  pure {
    name := ← required "name" draft.name
    baseUrl := ← required "base_url" draft.baseUrl
    http := draft.http
    headers := draft.headers
    operations := ← required "operations" draft.operations }

/-- How deep collections may nest in a YAML definition. -/
def yamlLevels : Nat := 128

/-- The definition a YAML text holds: its first and only document. -/
def ofYaml (text : String) : Except Misfit Definition :=
  let doc := Yaml.Document.ofText text
  match readDefinition Yaml.Place.source ⟨doc.root, doc.anchors, yamlLevels⟩ (100 * doc.size) with
  | .error misfit => .error misfit
  | .ok (d, _) => if doc.sound && doc.single then .ok d else .error .unfit

def ofJson (v : Json) : Except Misfit Definition :=
  (readDefinition Json.source v 0).map Prod.fst

/-- What is said of a text that is no definition. -/
def misfitMessage (misfit : Misfit) : String :=
  let cause := match misfit with
    | .unfit => ""
    | .missingField name => s!": missing field \x60{name}\x60"
    | .unknownVariant name => s!": unknown variant \x60{name}\x60"
    | .duplicateField name => s!": duplicate field \x60{name}\x60"
  "Failed to parse definition YAML" ++ cause

end Definition

end Pager

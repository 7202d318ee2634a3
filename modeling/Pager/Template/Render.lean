import Pager.Fault
import Pager.Json.Writer
import Pager.Template

namespace Pager.Template

/-- The variables of the process: those that are set and hold text. -/
abbrev Environment := String → Option String

/-- What a template may refer to: the parameters under `params`, and under `env` the environment,
if it may be seen. -/
structure Context where
  params : Json
  environment : Option Environment

/-- The value at a path of field names; lists have no names. -/
def fieldAt (v : Json) : List String → Option Json
  | [] => some v
  | part :: parts =>
    match v with
    | .object fields => (Fields.find? fields part).bind fun w => fieldAt w parts
    | _ => none

/-- The value of a variable. -/
def Context.get (ctx : Context) (path : String) : Option Json :=
  let (root, rest) := (Text.cutAt '.' path.toList).getD (path.toList, [])
  if root = "params".toList then
    if rest.isEmpty then some ctx.params
    else fieldAt ctx.params ((Text.pieces '.' rest).map String.ofList)
  else if root = "env".toList && !rest.isEmpty then
    ctx.environment.bind fun env => (env (String.ofList rest)).map Json.text
  else none

/-- How a value reads inside a text: texts as they are, nothing for null, JSON for the rest. -/
def valueText : Json → String
  | .text s => s
  | .null => ""
  | v => v.toText

/-- The texts of the pieces, or the undefined names among them in order. -/
def renderPieces (ctx : Context) : List Piece → Except (List String) (List Char)
  | [] => .ok []
  | .char c :: rest => (renderPieces ctx rest).map (c :: ·)
  | .variable _ name :: rest =>
    match ctx.get (String.ofList name), renderPieces ctx rest with
    | some v, .ok text => .ok ((valueText v).toList ++ text)
    | some _, .error missing => .error missing
    | none, .ok _ => .error [String.ofList name]
    | none, .error missing => .error (String.ofList name :: missing)

/-- The template with each placeholder replaced once, in its place, by the text of its variable's
value; substituted text is not looked at again. -/
def render (ctx : Context) (template : String) : Except Fault String :=
  match renderPieces ctx (scan template.toList) with
  | .ok text => .ok (String.ofList text)
  | .error missing => .error (.undefinedVariables missing)

mutual

/-- The value with every text and every field name rendered, field by field in order; of two fields
whose names render alike the later one is kept. -/
def renderValue (ctx : Context) : Json → Except Fault Json
  | .text s => (render ctx s).map Json.text
  | .list items => (renderItems ctx items).map Json.list
  | .object fields => (renderFields ctx fields).map Json.ofPairs
  | v => .ok v

def renderItems (ctx : Context) : List Json → Except Fault (List Json)
  | [] => .ok []
  | v :: vs =>
    match renderValue ctx v with
    | .error fault => .error fault
    | .ok w => (renderItems ctx vs).map (w :: ·)

def renderFields (ctx : Context) : List (String × Json) → Except Fault (List (String × Json))
  | [] => .ok []
  | (name, v) :: rest =>
    match render ctx name with
    | .error fault => .error fault
    | .ok name' =>
      match renderValue ctx v with
      | .error fault => .error fault
      | .ok w => (renderFields ctx rest).map ((name', w) :: ·)

end

mutual

/-- The value without the object fields that hold the empty text. -/
def pruneEmpty : Json → Json
  | .list items => .list (pruneItems items)
  | .object fields => .object (pruneFields fields)
  | v => v

def pruneItems : List Json → List Json
  | [] => []
  | v :: vs => pruneEmpty v :: pruneItems vs

def pruneFields : List (String × Json) → List (String × Json)
  | [] => []
  | (name, v) :: rest =>
    if v = .text "" then pruneFields rest else (name, pruneEmpty v) :: pruneFields rest

end

end Pager.Template

import Pager.Definition.Basic
import Pager.Template
import Pager.Text.Pieces

namespace Pager

mutual

/-- Every text of a value, field names included. -/
def Json.texts : Json → List String
  | .text s => [s]
  | .list items => textsOfItems items
  | .object fields => textsOfFields fields
  | _ => []

def Json.textsOfItems : List Json → List String
  | [] => []
  | v :: vs => v.texts ++ textsOfItems vs

def Json.textsOfFields : List (String × Json) → List String
  | [] => []
  | (name, v) :: rest => name :: v.texts ++ textsOfFields rest

end

def OperationDefinition.templates (op : OperationDefinition) : List String :=
  op.path :: op.params.map Prod.snd ++ op.headers.map Prod.snd ++ (op.body.map Json.texts).getD []

def Definition.templates (d : Definition) : List String :=
  d.headers.map Prod.snd ++ d.operations.flatMap OperationDefinition.templates

/-- The names behind `env.` in the variables of the templates. -/
def Definition.environmentNames (d : Definition) : List String :=
  (d.templates.flatMap Template.variableNames).filterMap fun name =>
    (Text.afterPrefix "env.".toList name.toList).map String.ofList

end Pager

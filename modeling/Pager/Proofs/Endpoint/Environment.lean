import Pager.Proofs.Endpoint.Bindable
import Pager.Proofs.Template.Variable

namespace Pager

namespace Template

/-- Whether two environments have the same values for the environment variables of a template. -/
def SameSettings (env env' : Environment) (template : String) : Prop :=
  ∀ name ∈ variableNames template, ∀ setting ∈ environmentName? name, env setting = env' setting

instance (env env' : Environment) (template : String) :
    Decidable (SameSettings env env' template) :=
  inferInstanceAs (Decidable (∀ name ∈ variableNames template, ∀ setting ∈ environmentName? name,
    env setting = env' setting))

theorem SameSettings.agree {env env' : Environment} {template : String}
    (same : SameSettings env env' template) (params : Json) :
    Agree ⟨params, some env⟩ ⟨params, some env'⟩ template :=
  fun name member => Context.get_congr (same name member)

end Template

namespace Definition

open Template

variable {ctx ctx' : Context}

theorem address_congr {base path : String} (agree : Agree ctx ctx' path) :
    address base path ctx = address base path ctx' := by
  have pieces : (pathPieces path).mapM (render ctx) = (pathPieces path).mapM (render ctx') :=
    mapM_render_congr (forall_pathPieces.mpr agree)
  rw [address, address, render_congr agree, pieces]

theorem renderEntries_congr {entries : List (String × String)}
    (agree : ∀ template ∈ entries.map Prod.snd, Agree ctx ctx' template) :
    renderEntries ctx entries = renderEntries ctx' entries := by
  induction entries with
  | nil => rfl
  | cons entry rest ih =>
    obtain ⟨first, others⟩ := List.forall_mem_cons.mp (by rwa [List.map_cons] at agree)
    rw [renderEntries, renderEntries, render_congr first, ih others]

theorem renderTexts_congr {entries : List (String × String)}
    (agree : ∀ template ∈ entries.map Prod.snd, Agree ctx ctx' template) :
    renderTexts ctx entries = renderTexts ctx' entries := by
  rw [renderTexts, renderTexts, renderEntries_congr agree]

theorem renderBody_congr {body : Option Json}
    (agree : ∀ template ∈ (body.map Json.texts).getD [], Agree ctx ctx' template) :
    renderBody ctx body = renderBody ctx' body := by
  cases body with
  | none => rfl
  | some v => rw [renderBody, renderBody, renderValue_congr v agree]

variable {d : Definition} {op : OperationDefinition} {env env' : Environment}
variable {supplied : List (String × String)}

/-- The parts of an endpoint, each from the same context. -/
theorem bindOperation_congr (same : ∀ template ∈ d.templatesOf op, SameSettings env env' template) :
    d.bindOperation op env supplied = d.bindOperation op env' supplied := by
  cases bound : bindParameters op supplied with
  | error fault => rw [bindOperation, bindOperation, bound, Except.error_bind, Except.error_bind]
  | ok parameters =>
    have agree : ∀ template ∈ d.templatesFor op parameters,
        Agree ⟨parameters.toJson, some env⟩ ⟨parameters.toJson, some env'⟩ template :=
      fun template member => (same template (templatesFor_subset member)).agree _
    simp only [templatesFor, List.forall_mem_append, List.forall_mem_cons, List.cons_append]
      at agree
    obtain ⟨path, ⟨queries, heads⟩, texts⟩ := agree
    rw [headersFor] at heads
    rw [bindOperation, bindOperation, bound, Except.ok_bind, Except.ok_bind]
    dsimp only
    rw [address_congr path, renderTexts_congr queries, renderTexts_congr heads,
      renderBody_congr texts]

/-- Two environments that agree on the variables written in the templates of an operation, and of
the headers for every operation, bind it alike, to the same fault if it cannot be bound, whatever is
supplied. What is bound has the value of each variable in its place, as it is. -/
theorem bind_reads_written (d : Definition) (env env' : Environment) (name : String)
    (supplied : List (String × String)) :
    ((∀ op, d.operation? name = some op →
        ∀ template ∈ d.templatesOf op, SameSettings env env' template) →
      d.bind env name supplied = d.bind env' name supplied) ∧
    ∀ b, d.bind env name supplied = .ok b ↔
      ∃ op parameters url, d.operation? name = some op ∧
        bindParameters op supplied = .ok parameters ∧
        addressOf? d.baseUrl op.path ⟨parameters.toJson, some env⟩ = some url ∧
        (∀ template ∈ d.templatesFor op parameters,
          Resolves ⟨parameters.toJson, some env⟩ template) ∧
        d.substituted op env parameters url = b := by
  cases found : d.operation? name with
  | none =>
    rw [bind, bind, found]
    exact ⟨fun _ => rfl, by simp⟩
  | some op =>
    rw [bind, bind, found]
    refine ⟨fun same => bindOperation_congr (same op rfl), fun b => ?_⟩
    simp [bindOperation_ok_iff]

end Definition

namespace KeyedFolder

/-- The environment with the key, and a secret beside it. -/
def secretive (key secret : String) : Template.Environment :=
  fun name => if name = "SECRET" then some secret else keyed key name

def placeholder : String :=
  "\x7b\x7b env.SECRET \x7d\x7d"

/-- A folder that reads like a placeholder of the secret goes out as it is, with the secret or
without it. -/
theorem secret_unread :
    definition.bind (keyed "k") "list" [("FOLDER", placeholder)] =
        definition.bind (secretive "k" "s") "list" [("FOLDER", placeholder)] ∧
      ∃ b, definition.bind (secretive "k" "s") "list" [("FOLDER", placeholder)] = .ok b ∧
        b.endpoint.headers = [("X-Key", "k")] ∧
        b.endpoint.body = some (.object [("filter", .text placeholder)]) := by
  have only : definition.operation? "list" = some operation := by decide
  constructor
  · refine (Definition.bind_reads_written _ _ _ _ _).1 fun op found => ?_
    cases only.symm.trans found
    decide +kernel
  · refine ⟨_, ((Definition.bind_reads_written _ (secretive "k" "s") (keyed "k") _ _).2 _).mpr
      ⟨operation, parameters placeholder, "http://h/v1/%7B%7B%20env.SECRET%20%7D%7D/items", only,
        bindParameters placeholder, ?_, ?_, rfl⟩, ?_, ?_⟩
    · decide +kernel
    · decide +kernel
    · decide +kernel
    · decide +kernel

end KeyedFolder

end Pager

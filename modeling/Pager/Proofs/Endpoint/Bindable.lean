import Pager.Proofs.Endpoint.Arguments
import Pager.Proofs.Endpoint.Parts
import Pager.Proofs.Url.Basic

namespace Pager

namespace Definition

open Template

variable {d : Definition} {op : OperationDefinition} {env : Environment} {name : String}
variable {supplied : List (String × String)} {parameters : Parameters} {ctx : Context}

theorem addressOf?_eq_some_iff {base path : String} {url : Url} (read : Url.ofText base = .ok url) :
    (∃ text, addressOf? base path ctx = some text) ↔
      Url.isWebAddress path = true ∨ Url.Rooted base := by
  rw [← Url.ofText_segments_iff read, addressOf?, read]
  by_cases web : Url.isWebAddress path = true
  · simp [web]
  · cases own : url.path <;> simp [web, Url.extend?, own]

/-- A base that takes no segments is told of, whatever the path refers to. -/
theorem address_unrooted {base path : String} {url : Url} (read : Url.ofText base = .ok url)
    (neither : ¬ (Url.isWebAddress path = true ∨ Url.Rooted base)) :
    address base path ctx = .error (.config s!"base_url '{base}' cannot take a path") := by
  rw [← Url.ofText_segments_iff read, not_or] at neither
  cases own : url.path with
  | segments segments => exact absurd ⟨segments, own⟩ neither.2
  | rootless text => simp only [address, if_neg neither.1, read, own]

theorem bindOperation_unaddressed {fault : Fault} (bound : bindParameters op supplied = .ok parameters)
    (failed : address d.baseUrl op.path ⟨parameters.toJson, some env⟩ = .error fault) :
    d.bindOperation op env supplied = .error fault := by
  rw [bindOperation, bound, Except.ok_bind]
  dsimp only
  rw [failed, Except.error_bind]

/-- An operation of a loaded definition, with values for its required parameters and for its
variables, is bound exactly if its path is an address of its own or the base takes segments: its
scheme is special, or a slash follows it. Any other base passes as a URL when it is loaded, and is
told of when it is bound. -/
theorem load_bind_iff {text : String} (loaded : load text = .ok d) (member : op ∈ d.operations)
    (named : Text.sameName op.name name = true) (enough : Suffices op supplied)
    (resolved : ∀ parameters, bindParameters op supplied = .ok parameters →
      ∀ template ∈ d.templatesOf op, Resolves ⟨parameters.toJson, some env⟩ template) :
    ((∃ b, d.bind env name supplied = .ok b) ↔
      Url.isWebAddress op.path = true ∨ Url.Rooted d.baseUrl) ∧
    (¬ (Url.isWebAddress op.path = true ∨ Url.Rooted d.baseUrl) →
      d.bind env name supplied =
        .error (.config s!"base_url '{d.baseUrl}' cannot take a path")) := by
  have sound := sound_of_load loaded
  obtain ⟨url, read⟩ := sound.base
  obtain ⟨parameters, bound⟩ := bindParameters_ok enough.declared fun p given required _ =>
    enough.required p given required
  have resolves := resolved parameters bound
  have binding : d.bind env name supplied = d.bindOperation op env supplied := by
    rw [Definition.bind, sound.operation? member named]
  have unrooted : ¬ (Url.isWebAddress op.path = true ∨ Url.Rooted d.baseUrl) →
      d.bindOperation op env supplied =
        .error (.config s!"base_url '{d.baseUrl}' cannot take a path") :=
    fun neither => bindOperation_unaddressed bound (address_unrooted read neither)
  rw [binding]
  refine ⟨⟨fun ⟨b, made⟩ => ?_, fun either => ?_⟩, unrooted⟩
  · by_contra neither
    rw [unrooted neither] at made
    cases made
  · obtain ⟨text, addressed⟩ := (addressOf?_eq_some_iff read).mpr either
    have used : ∀ template ∈ d.templatesFor op parameters,
        Resolves ⟨parameters.toJson, some env⟩ template :=
      fun template member => resolves template (templatesFor_subset member)
    exact ⟨_, bindOperation_ok_iff.mpr ⟨parameters, text, bound, addressed, used, rfl⟩⟩

end Definition

namespace KeyedFolder

/-- A definition with a key for every operation, and a folder, an order and a body for one. -/
def text : String :=
  "name: s\nbase_url: http://h/v1\nheaders:\n  X-Key: '\x7b\x7b env.KEY \x7d\x7d'\noperations:\n" ++
  "- name: list\n  path: '/\x7b\x7b params.folder \x7d\x7d/items'\n" ++
  "  parameters:\n  - name: folder\n    required: true\n  - name: order\n    default: asc\n" ++
  "  params:\n    order: '\x7b\x7b params.order \x7d\x7d'\n" ++
  "  body:\n    filter: '\x7b\x7b params.folder \x7d\x7d'\n  cursor: \x7bparam: c, location: query\x7d\n"

def operation : OperationDefinition where
  name := "list"
  description := none
  method := .get
  path := "/\x7b\x7b params.folder \x7d\x7d/items"
  parameters := [⟨"folder", true, none, none⟩, ⟨"order", false, some "asc", none⟩]
  params := [("order", "\x7b\x7b params.order \x7d\x7d")]
  headers := []
  body := some (.object [("filter", .text "\x7b\x7b params.folder \x7d\x7d")])
  cursor := ⟨"c", .query, none⟩
  pageSize := none
  itemsPath := none

def definition : Definition :=
  ⟨"s", "http://h/v1", .standard, [("X-Key", "\x7b\x7b env.KEY \x7d\x7d")], [operation]⟩

/-- The environment with a key and nothing else. -/
def keyed (key : String) : Template.Environment :=
  fun name => if name = "KEY" then some key else none

def parameters (folder : String) : Parameters :=
  ⟨["folder", "order"], [("folder", folder), ("order", "asc")]⟩

theorem load : Definition.load text = .ok definition := by
  have chars : text = String.ofList _ :=
    Text.append_eq_ofList (Text.append_eq_ofList (Text.append_eq_ofList
      (Text.append_eq_ofList rfl rfl) rfl) rfl) rfl
  have loaded : (Definition.load text).toOption = some definition := by
    rw [Definition.load, Definition.ofYaml, Yaml.Document.ofText, chars, Yaml.eventsOf_ofList]
    decide +kernel
  exact Except.toOption_eq_some.mp loaded

theorem bindParameters (folder : String) :
    Definition.bindParameters operation [("FOLDER", folder)] = .ok (parameters folder) := by
  rfl

theorem load_bind : (∃ b, definition.bind (keyed "k") "LIST" [("FOLDER", "a b")] = .ok b) ∧
    Url.Rooted definition.baseUrl := by
  have rooted : Url.Rooted definition.baseUrl := by decide +kernel
  refine ⟨(Definition.load_bind_iff load List.mem_cons_self (by decide)
    ⟨by decide, by decide⟩ fun parameters bound => ?_).1.mpr (.inr rooted), rooted⟩
  cases (bindParameters "a b").symm.trans bound
  decide +kernel

end KeyedFolder

namespace MailBase

/-- A definition whose base is no web service. -/
def text : String :=
  "name: s\nbase_url: mailto:x\noperations:\n- name: list\n  path: /p\n" ++
  "  cursor: \x7bparam: c, location: query\x7d\n"

def operation : OperationDefinition where
  name := "list"
  description := none
  method := .get
  path := "/p"
  parameters := []
  params := []
  headers := []
  body := none
  cursor := ⟨"c", .query, none⟩
  pageSize := none
  itemsPath := none

def definition : Definition :=
  ⟨"s", "mailto:x", .standard, [], [operation]⟩

theorem load : Definition.load text = .ok definition := by
  have chars : text = String.ofList _ := Text.append_eq_ofList rfl rfl
  have loaded : (Definition.load text).toOption = some definition := by
    rw [Definition.load, Definition.ofYaml, Yaml.Document.ofText, chars, Yaml.eventsOf_ofList]
    decide +kernel
  exact Except.toOption_eq_some.mp loaded

/-- It is loaded, its operation has neither parameters nor variables, and cannot be bound. -/
theorem loaded_unbound : ∃ d op, Definition.load text = .ok d ∧ op ∈ d.operations ∧
    op.parameters = [] ∧ (∀ template ∈ d.templatesOf op, Template.variableNames template = []) ∧
    ∀ env, d.bind env op.name [] =
      .error (.config "base_url 'mailto:x' cannot take a path") := by
  refine ⟨definition, operation, load, List.mem_cons_self, rfl, by decide +kernel, fun env => ?_⟩
  obtain ⟨url, read⟩ := (Definition.sound_of_load load).base
  have neither : ¬ (Url.isWebAddress operation.path = true ∨ Url.Rooted definition.baseUrl) := by
    decide
  have found : definition.operation? operation.name = some operation := by decide
  have bound : Definition.bindParameters operation [] = .ok ⟨[], []⟩ := rfl
  rw [Definition.bind, found]
  exact Definition.bindOperation_unaddressed bound (Definition.address_unrooted read neither)

end MailBase

end Pager

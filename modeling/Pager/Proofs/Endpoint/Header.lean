import Pager.Definition.Defect
import Pager.Proofs.Endpoint.Parts
import Pager.Proofs.Parameters
import Pager.Proofs.Template.Variable

namespace Pager

namespace Definition

open Template

variable {d : Definition} {op : OperationDefinition} {env : Environment}
variable {supplied : List (String × String)} {p parameters : Parameters} {template : String}

/-- The variables that are a declared parameter in its own spelling, with nothing behind it. -/
inductive NamesParameter (declared : List String) : String → Prop
  | intro {name : String} (member : name ∈ declared) (undotted : '.' ∉ name.toList) :
      NamesParameter declared (parameterName name)

/-- The definition without one of its headers. -/
def withoutHeader (d : Definition) (header : String × String) : Definition :=
  { d with headers := d.headers.filter fun other => other ≠ header }

theorem refersToDeclared_iff :
    refersToDeclared template p = true ↔
      ∀ name ∈ (variableNames template).filterMap referredParameter?,
        ∃ declared ∈ p.declared, Text.sameName declared name = true := by
  simp only [refersToDeclared, List.all_eq_true, Parameters.canonical?_isSome_iff]

theorem parameterName_inj {path other : String} (same : parameterName path = parameterName other) :
    path = other :=
  (String.append_right_inj _).mp same

theorem namesParameter_iff {declared : List String} {path : String} :
    NamesParameter declared (parameterName path) ↔ path ∈ declared ∧ '.' ∉ path.toList := by
  constructor
  · intro names
    generalize same : parameterName path = name at names
    cases names with
    | intro member undotted =>
      cases parameterName_inj same
      exact ⟨member, undotted⟩
  · exact fun both => .intro both.1 both.2

/-- The variables of a template are never the root alone. -/
theorem path_ne_empty {path : String} (member : parameterName path ∈ variableNames template) :
    path ≠ "" := by
  rintro rfl
  have is := isName_of_mem member
  revert is
  decide

theorem get_isSome_iff {path : String} (member : parameterName path ∈ variableNames template) :
    (Context.get ⟨p.toJson, some env⟩ (parameterName path)).isSome = true ↔
      NamesParameter p.declared (parameterName path) := by
  rw [Parameters.get_parameterName p _ (path_ne_empty member), namesParameter_iff]
  split <;> simp_all

/-- A template that refers to parameters only has values for them if each is one. -/
theorem resolves_iff (only : ∀ name ∈ variableNames template, ∃ path, name = parameterName path) :
    Resolves ⟨p.toJson, some env⟩ template ↔
      ∀ name ∈ variableNames template, NamesParameter p.declared name := by
  refine forall₂_congr fun name member => ?_
  obtain ⟨path, rfl⟩ := only name member
  exact get_isSome_iff member

theorem bindOperation_withoutHeader {header : String × String}
    (bound : bindParameters op supplied = .ok parameters)
    (skipped : refersToDeclared header.2 parameters = false) :
    (d.withoutHeader header).bindOperation op env supplied = d.bindOperation op env supplied := by
  have same : (d.withoutHeader header).headers.filter (fun other => refersToDeclared other.2 parameters) =
      d.headers.filter fun other => refersToDeclared other.2 parameters := by
    rw [withoutHeader, List.filter_filter]
    refine List.filter_congr fun other _ => ?_
    by_cases this : other = header
    · simp [this, skipped]
    · simp [this]
  rw [bindOperation, bindOperation, bound, Except.ok_bind, Except.ok_bind]
  dsimp only
  rw [same]
  rfl

/-- A header for every operation whose variables are parameters is kept exactly if the first part of
each is the name of a parameter of the operation, whatever its case. One that is kept is rendered
exactly if each variable is such a name in its declared spelling, with nothing behind it, and else
nothing is bound. One that is not kept is as good as none. -/
theorem bind_shared_header (bound : bindParameters op supplied = .ok parameters)
    {header : String × String} (shared : header ∈ d.headers)
    (only : ∀ name ∈ variableNames header.2, ∃ path, name = parameterName path) :
    (refersToDeclared header.2 parameters = true ↔
      ∀ name ∈ (variableNames header.2).filterMap referredParameter?,
        ∃ declared ∈ op.parameterNames, Text.sameName declared name = true) ∧
    (refersToDeclared header.2 parameters = true →
      ((∃ text, render ⟨parameters.toJson, some env⟩ header.2 = .ok text) ↔
        ∀ name ∈ variableNames header.2, NamesParameter op.parameterNames name) ∧
      (¬ (∀ name ∈ variableNames header.2, NamesParameter op.parameterNames name) →
        ∀ b, d.bindOperation op env supplied ≠ .ok b)) ∧
    (refersToDeclared header.2 parameters = false →
      (d.withoutHeader header).bindOperation op env supplied = d.bindOperation op env supplied) := by
  have declared := declared_bindParameters bound
  have resolves := @resolves_iff env parameters header.2 only
  rw [declared] at resolves
  refine ⟨declared ▸ refersToDeclared_iff, fun kept => ⟨?_, fun other b made => ?_⟩,
    bindOperation_withoutHeader bound⟩
  · simp only [render_ok_iff, exists_and_left, exists_eq', and_true, resolves]
  · obtain ⟨again, _, bound', _, each, _⟩ := bindOperation_ok_iff.mp made
    cases bound.symm.trans bound'
    have used : header ∈ d.headersFor op parameters :=
      List.mem_append_left _ (List.mem_filter.mpr ⟨shared, kept⟩)
    exact other (resolves.mp (each _ (mem_templatesFor used)))

end Definition

namespace TokenHeader

/-- A definition whose header spells the parameter of its operation with another case. -/
def text : String :=
  "name: s\nbase_url: http://h\nheaders:\n  X-Token: '\x7b\x7b params.token \x7d\x7d'\n" ++
  "operations:\n- name: list\n  path: /p\n  parameters:\n  - name: Token\n" ++
  "  cursor: \x7bparam: c, location: query\x7d\n"

def operation : OperationDefinition where
  name := "list"
  description := none
  method := .get
  path := "/p"
  parameters := [⟨"Token", false, none, none⟩]
  params := []
  headers := []
  body := none
  cursor := ⟨"c", .query, none⟩
  pageSize := none
  itemsPath := none

def definition (headers : Fields String) : Definition :=
  ⟨"s", "http://h", .standard, headers, [operation]⟩

def header : String × String :=
  ("X-Token", "\x7b\x7b params.token \x7d\x7d")

def parameters : Parameters :=
  ⟨["Token"], [("Token", "t")]⟩

theorem load : Definition.load text = .ok (definition [header]) := by
  have chars : text = String.ofList _ := Text.append_eq_ofList (Text.append_eq_ofList rfl rfl) rfl
  have loaded : (Definition.load text).toOption = some (definition [header]) := by
    rw [Definition.load, Definition.ofYaml, Yaml.Document.ofText, chars, Yaml.eventsOf_ofList]
    decide +kernel
  exact Except.toOption_eq_some.mp loaded

theorem bindParameters : Definition.bindParameters operation [("Token", "t")] = .ok parameters :=
  rfl

theorem only {template : String} {path : String}
    (one : Template.variableNames template = [Template.parameterName path]) :
    ∀ name ∈ Template.variableNames template, ∃ path, name = Template.parameterName path := by
  rw [one, List.forall_mem_singleton]
  exact ⟨path, rfl⟩

def exactHeader : String × String :=
  ("X-Exact", "\x7b\x7b params.Token \x7d\x7d")

def otherHeader : String × String :=
  ("X-Other", "\x7b\x7b params.other \x7d\x7d")

/-- Of three headers one is rendered, one keeps the operation from being bound, one is skipped. -/
theorem three_headers :
    (∃ text, Template.render ⟨parameters.toJson, some fun _ => none⟩ exactHeader.2 = .ok text) ∧
    (∀ b, (definition [exactHeader, otherHeader, header]).bindOperation operation (fun _ => none)
      [("Token", "t")] ≠ .ok b) ∧
    ((definition [exactHeader, otherHeader, header]).withoutHeader otherHeader).bindOperation operation
        (fun _ => none) [("Token", "t")] =
      (definition [exactHeader, otherHeader, header]).bindOperation operation (fun _ => none)
        [("Token", "t")] := by
  have members : exactHeader ∈ (definition [exactHeader, otherHeader, header]).headers ∧
      otherHeader ∈ (definition [exactHeader, otherHeader, header]).headers ∧
      header ∈ (definition [exactHeader, otherHeader, header]).headers := by decide
  have exactOne : Template.variableNames exactHeader.2 = [Template.parameterName "Token"] := by
    decide +kernel
  have otherOne : Template.variableNames otherHeader.2 = [Template.parameterName "other"] := by
    decide +kernel
  have one : Template.variableNames header.2 = [Template.parameterName "token"] := by decide +kernel
  refine ⟨?_, ?_, ?_⟩
  · refine (Definition.bind_shared_header bindParameters members.1 (only exactOne)).2.1
      (by decide +kernel) |>.1.mpr ?_
    rw [exactOne, List.forall_mem_singleton, Definition.namesParameter_iff]
    decide
  · refine (Definition.bind_shared_header bindParameters members.2.2 (only one)).2.1
      (by decide +kernel) |>.2 fun each => ?_
    rw [one, List.forall_mem_singleton, Definition.namesParameter_iff] at each
    exact absurd each.1 (by decide)
  · exact (Definition.bind_shared_header bindParameters members.2.1 (only otherOne)).2.2
      (by decide +kernel)

/-- The header is kept and has no value, so that nothing is bound. -/
theorem kept_unrendered : ∃ d, Definition.load text = .ok d ∧ header ∈ d.headers ∧
    Template.variableNames header.2 = [Template.parameterName "token"] ∧
    Definition.bindParameters operation [("Token", "t")] = .ok parameters ∧
    Definition.refersToDeclared header.2 parameters = true ∧
    d.bind (fun _ => none) "list" [("Token", "t")] =
      .error (.undefinedVariables [Template.parameterName "token"]) :=
  ⟨definition [header], load, List.mem_cons_self, by decide +kernel, bindParameters,
    by decide +kernel, Except.fault?_eq_some.mp (by decide +kernel)⟩

end TokenHeader

end Pager

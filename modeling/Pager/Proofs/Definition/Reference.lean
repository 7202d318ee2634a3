import Pager.Proofs.Definition.Sound
import Pager.Proofs.Parameters
import Pager.Proofs.Template.Scan
import Pager.Proofs.Template.Substitution
import Pager.Proofs.Template.Variable

namespace Pager

namespace Template

/-- The placeholder of a parameter. -/
def reference (name : String) : String :=
  "\x7b\x7b " ++ parameterName name ++ " \x7d\x7d"

theorem parameterName_ofList (path : List Char) :
    (parameterName (String.ofList path)).toList = "params".toList ++ '.' :: path := by
  rw [toList_parameterName, String.toList_ofList (l := path)]

theorem toList_reference (name : String) :
    (reference name).toList =
      '{' :: '{' :: ([' '] ++ ((parameterName name).toList ++ ([' '] ++ ['}', '}']))) := by
  rw [reference, String.toList_append, String.toList_append, List.append_assoc]
  rfl

theorem isName_parameterName (path : String) :
    isName (parameterName path).toList = isName path.toList := by
  rw [toList_parameterName, isName_cons (by decide)]

theorem blank_space : ∀ c ∈ [' '], Text.isBlank c = true :=
  List.forall_mem_singleton.mpr (by decide)

theorem scan_reference {name : String} (is : isName name.toList = true) :
    ∃ source, scan (reference name).toList = [.variable source (parameterName name).toList] := by
  have named : isName (parameterName name).toList = true := by rw [isName_parameterName, is]
  have read := placeholder?_written blank_space named blank_space []
  rw [toList_reference, scan_cons, read]
  simp

/-- What is read behind the root of the parameters is a name behind the root. -/
theorem name_of_placeholder {more name rest : List Char}
    (found : placeholder? ('{' :: '{' :: ([' '] ++ ("params".toList ++ '.' :: more))) =
      some (name, rest)) :
    ∃ path, name = "params".toList ++ '.' :: path ∧ isName path = true := by
  have root : identifier? ("params".toList ++ '.' :: more) = some ("params".toList, '.' :: more) :=
    identifier?_append (by decide) (by simp; decide)
  rw [placeholder?_braces, trimLeft_append blank_space (by rintro _ ⟨⟩; decide), name?, root,
    Option.map_some] at found
  dsimp only at found
  rw [dotted_dot] at found
  cases read : identifier? more with
  | none =>
    -- a dot closes no placeholder
    rw [read] at found
    cases found
  | some first =>
    obtain ⟨part, after⟩ := first
    have is := (identifier?_eq_some read).1
    rw [read] at found
    simp only [Option.bind_some, Option.map_eq_some_iff, Prod.mk.injEq] at found
    obtain ⟨_, _, rfl, _⟩ := found
    refine ⟨part ++ (dotted after).1, by simp, ?_⟩
    rcases (dotted_spec after).2 with nothing | ⟨others, dots, names⟩
    · rw [nothing, List.append_nil, isName_of_identifier is]
    · rw [dots, isName_cons is, names]

/-- The placeholder of a parameter begins with a brace that stands for itself, or with a variable
behind the root of the parameters. -/
theorem scan_reference_cons (name : String) :
    ∃ piece rest, scan (reference name).toList = piece :: rest ∧
      (piece = .char '{' ∨
        ∃ source path, piece = .variable source (parameterName path).toList ∧
          isName path.toList = true) := by
  have written : (reference name).toList = '{' :: '{' :: ([' '] ++ ("params".toList ++
      '.' :: (name.toList ++ ([' '] ++ ['}', '}'])))) := by
    rw [toList_reference, toList_parameterName, List.append_assoc]
    rfl
  rw [written, scan_cons]
  split
  · next read rest found =>
    obtain ⟨path, rfl, names⟩ := name_of_placeholder found
    rw [← parameterName_ofList path]
    exact ⟨_, _, rfl, .inr ⟨_, String.ofList path, rfl, by rwa [String.toList_ofList]⟩⟩
  · exact ⟨_, _, rfl, .inl rfl⟩

end Template

namespace Parameters

/-- Every name bound to its own value. -/
theorem bindAll_each {p : Parameters} {names : List String} (value : String → String)
    (each : ∀ name ∈ names, p.canonical? name = some name) :
    p.bindAll (names.map fun name => (name, value name)) =
      .ok ⟨p.declared, names.foldl (fun values name => values.put name (value name)) p.values⟩ := by
  induction names generalizing p with
  | nil => rfl
  | cons name names ih =>
    obtain ⟨first, others⟩ := List.forall_mem_cons.mp each
    have bound : p.bind name (value name) = .ok ⟨p.declared, p.values.put name (value name)⟩ :=
      bind_ok_iff.mpr ⟨name, first, rfl⟩
    rw [List.map_cons, bindAll, bound]
    exact ih others

end Parameters

namespace Definition

open Template

variable {d : Definition} {op : OperationDefinition} {parameters : Parameters} {name : String}

/-- Declared parameters of a sound operation are kept under the names they are looked up by. -/
theorem get?_of_declared (sound : op.Sound) (declared : parameters.declared = op.parameterNames)
    (member : name ∈ op.parameterNames) : parameters.get? name = parameters.values.find? name := by
  rw [Parameters.get?, sound.canonical? declared member (Text.sameName_refl name), Option.bind_some]

/-- Every choice of values for the parameters of a sound operation can be bound. -/
theorem bindParameters_each (sound : op.Sound) (value : String → String) :
    ∃ parameters,
      bindParameters op (op.parameterNames.map fun name => (name, value name)) = .ok parameters ∧
      ∀ name ∈ op.parameterNames, parameters.values.find? name = some (value name) := by
  have each : ∀ name ∈ op.parameterNames,
      (Parameters.ofNames op.parameterNames).canonical? name = some name :=
    fun name member => sound.canonical? rfl member (Text.sameName_refl name)
  have all := Parameters.bindAll_each value each
  have values : ∀ name ∈ op.parameterNames,
      Fields.find? (op.parameterNames.foldl (fun values name => values.put name (value name)) [])
        name = some (value name) := by
    intro name member
    rw [Fields.find?_foldl_put, if_pos member]
  refine ⟨_, Except.bind_eq_ok.mpr ⟨_, all, fillDefaults_of_bound fun p member => ?_⟩, values⟩
  have named : p.name ∈ op.parameterNames := List.mem_map_of_mem member
  rw [Parameters.isBound, get?_of_declared sound rfl named]
  exact Option.isSome_iff_exists.mpr ⟨_, values p.name named⟩

theorem render_reference {env : Environment} (sound : op.Sound)
    (declared : parameters.declared = op.parameterNames) (member : name ∈ op.parameterNames)
    (is : isIdentifier name.toList = true) :
    render ⟨parameters.toJson, some env⟩ (reference name) =
      .ok ((parameters.get? name).getD "") := by
  obtain ⟨source, pieces⟩ := scan_reference (isName_of_identifier is)
  have given : name ≠ "" := by
    rintro rfl
    cases is
  have value := Parameters.get_parameterName parameters (some env) given
  rw [if_pos ⟨declared ▸ member, dot_not_mem is⟩] at value
  rw [get?_of_declared sound declared member, render_ok_iff]
  constructor
  · intro other inside
    rw [variableNames, pieces] at inside
    cases List.mem_singleton.mp inside
    rw [String.ofList_toList, value]
    rfl
  · rw [substitute, pieces]
    simp [Piece.text, value, valueText]

/-- A parameter that is no identifier is not referred to: with an empty value for it and none for the
others, what its placeholder is replaced by is not empty. -/
theorem render_other {env : Environment} (declared : parameters.declared = op.parameterNames)
    (values : ∀ other ∈ op.parameterNames, other ≠ name → parameters.values.find? other = some "a")
    (outside : isIdentifier name.toList = false) :
    render ⟨parameters.toJson, some env⟩ (reference name) ≠ .ok "" := by
  intro rendered
  obtain ⟨resolves, nothing⟩ := render_ok_iff.mp rendered
  obtain ⟨piece, rest, pieces, first⟩ := scan_reference_cons name
  have empty : (scan (reference name).toList).flatMap (Piece.text ⟨parameters.toJson, some env⟩) = [] :=
    String.ofList_eq_empty_iff.mp nothing
  rw [pieces, List.flatMap_cons] at empty
  obtain rfl | ⟨source, path, rfl, names⟩ := first
  · cases empty
  · have given : path ≠ "" := fun empty => isName_ne_nil names (String.toList_eq_nil_iff.mpr empty)
    have inside : parameterName path ∈ variableNames (reference name) := by
      rw [variableNames, pieces]
      simp [Piece.name?]
    have value := Parameters.get_parameterName parameters (some env) given
    have found := resolves _ inside
    rw [value] at found
    split at found
    · next both =>
      have is : isIdentifier path.toList = true := by
        rw [isName, Text.pieces_of_not_mem both.2] at names
        simpa using names
      have differs : path ≠ name := by
        rintro rfl
        rw [is] at outside
        cases outside
      rw [if_pos both, values path (declared ▸ both.1) differs] at value
      rw [Piece.text, String.ofList_toList, value] at empty
      cases empty
    · cases found

/-- The placeholder of a parameter of a loaded definition is replaced by the value of the parameter,
empty if it has none, in whatever is bound, exactly if the name of the parameter is an identifier. -/
theorem reference_iff {text : String} (loaded : load text = .ok d) (operation : op ∈ d.operations)
    (member : name ∈ op.parameterNames) :
    (∀ env supplied parameters, bindParameters op supplied = .ok parameters →
      render ⟨parameters.toJson, some env⟩ (reference name) =
        .ok ((parameters.get? name).getD "")) ↔
      isIdentifier name.toList = true := by
  have sound := (sound_of_load loaded).operations op operation
  constructor
  · intro always
    cases outside : isIdentifier name.toList with
    | true => rfl
    | false =>
    obtain ⟨parameters, bound, values⟩ :=
      bindParameters_each sound fun declared => if declared = name then "" else "a"
    have declared := declared_bindParameters bound
    have rendered := always (fun _ => none) _ parameters bound
    rw [get?_of_declared sound declared member, values name member, if_pos rfl] at rendered
    refine absurd rendered (render_other declared (fun other member differs => ?_) outside)
    rw [values other member, if_neg differs]
  · intro is env supplied parameters bound
    exact render_reference sound (declared_bindParameters bound) member is

end Definition

namespace PageToken

/-- A definition with a parameter whose name is no identifier. -/
def text : String :=
  "name: s\nbase_url: http://h\noperations:\n- name: list\n  path: /p\n" ++
  "  parameters:\n  - name: Folder\n  - name: page-token\n  params:\n" ++
  "    folder: '\x7b\x7b params.Folder \x7d\x7d'\n    token: '\x7b\x7b params.page-token \x7d\x7d'\n" ++
  "  cursor: \x7bparam: c, location: query\x7d\n"

def operation : OperationDefinition where
  name := "list"
  description := none
  method := .get
  path := "/p"
  parameters := [⟨"Folder", false, none, none⟩, ⟨"page-token", false, none, none⟩]
  params := [("folder", "\x7b\x7b params.Folder \x7d\x7d"),
    ("token", "\x7b\x7b params.page-token \x7d\x7d")]
  headers := []
  body := none
  cursor := ⟨"c", .query, none⟩
  pageSize := none
  itemsPath := none

def definition : Definition :=
  ⟨"s", "http://h", .standard, [], [operation]⟩

def supplied : List (String × String) :=
  [("folder", "a"), ("page-token", "t")]

def parameters : Parameters :=
  ⟨["Folder", "page-token"], [("Folder", "a"), ("page-token", "t")]⟩

theorem load : Definition.load text = .ok definition := by
  have chars : text = String.ofList _ :=
    Text.append_eq_ofList (Text.append_eq_ofList (Text.append_eq_ofList rfl rfl) rfl) rfl
  have loaded : (Definition.load text).toOption = some definition := by
    rw [Definition.load, Definition.ofYaml, Yaml.Document.ofText, chars, Yaml.eventsOf_ofList]
    decide +kernel
  exact Except.toOption_eq_some.mp loaded

theorem bindParameters : Definition.bindParameters operation supplied = .ok parameters :=
  rfl

/-- The folder is referred to, and the token is not. -/
theorem folder_referred :
    Template.render ⟨parameters.toJson, some fun _ => none⟩ (Template.reference "Folder") = .ok "a" ∧
    ¬ ∀ env supplied parameters, Definition.bindParameters operation supplied = .ok parameters →
      Template.render ⟨parameters.toJson, some env⟩ (Template.reference "page-token") =
        .ok ((parameters.get? "page-token").getD "") := by
  have folder : "Folder" ∈ operation.parameterNames := by decide
  have token : "page-token" ∈ operation.parameterNames := by decide
  constructor
  · exact (Definition.reference_iff load List.mem_cons_self folder).mpr (by decide) _ _ _ bindParameters
  · exact fun always =>
      absurd ((Definition.reference_iff load List.mem_cons_self token).mp always) (by decide)

/-- The placeholder of the token goes out as it is written. -/
theorem token_literal : ∃ d b, Definition.load text = .ok d ∧
    d.bind (fun _ => none) "list" supplied = .ok b ∧ b.parameters.get? "page-token" = some "t" ∧
    Template.render ⟨b.parameters.toJson, some fun _ => none⟩ (Template.reference "page-token") =
      .ok (Template.reference "page-token") ∧
    Fields.find? b.endpoint.query "token" = some (Template.reference "page-token") := by
  have made : (definition.bind (fun _ => none) "list" supplied).toOption.map
      (fun b => (b.endpoint.query, b.parameters)) =
        some ([("folder", "a"), ("token", Template.reference "page-token")], parameters) := by
    decide +kernel
  obtain ⟨b, bound, same⟩ := Option.map_eq_some_iff.mp made
  have query : b.endpoint.query = _ := congrArg Prod.fst same
  have bindings : b.parameters = parameters := congrArg Prod.snd same
  have literal : (Template.render ⟨parameters.toJson, some fun _ => none⟩
      (Template.reference "page-token")).toOption = some (Template.reference "page-token") := by
    decide +kernel
  refine ⟨definition, b, load, Except.toOption_eq_some.mp bound, ?_, ?_, ?_⟩
  · rw [bindings]
    decide
  · rw [bindings]
    exact Except.toOption_eq_some.mp literal
  · rw [query]
    decide

end PageToken

end Pager

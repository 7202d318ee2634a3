import Pager.CommandLine.Assignment
import Pager.Proofs.Endpoint.Bindable
import Pager.Proofs.Selection

namespace Pager.CommandLine

open Definition

variable {name value : String} {pair : String × String}

theorem assignment_of_free (free : '=' ∉ name.toList) :
    assignment (name ++ "=" ++ value) =
      if Text.trim name = "" then
        .error (.invalidArgument "param" ("'" ++ (name ++ "=" ++ value) ++ "' has an empty name"))
      else .ok (Text.trim name, value) := by
  have cut : Text.cutAt '=' (name ++ "=" ++ value).toList = some (name.toList, value.toList) := by
    have chars : (name ++ "=" ++ value).toList = name.toList ++ '=' :: value.toList := by simp
    rw [chars, Text.cutAt_append free]
  rw [assignment, cut]
  simp only [String.ofList_toList]
  rfl

theorem assignment_whole (named : name ≠ "") (free : '=' ∉ name.toList)
    (trimmed : Text.trim name = name) : assignment (name ++ "=" ++ value) = .ok (name, value) := by
  rw [assignment_of_free free, trimmed, if_neg named]

theorem name_of_free (free : '=' ∉ name.toList)
    (read : assignment (name ++ "=" ++ value) = .ok pair) : pair.1 = Text.trim name := by
  rw [assignment_of_free free] at read
  split at read
  · cases read
  · cases read
    rfl

/-- The name that is read is shorter, unless it is all that was written. -/
theorem written_of_assignment (read : assignment (name ++ "=" ++ value) = .ok pair)
    (long : name.toList.length ≤ pair.1.toList.length) :
    '=' ∉ name.toList ∧ Text.trim name = name := by
  by_cases inside : '=' ∈ name.toList
  · obtain ⟨front, back, split, free⟩ := List.eq_append_cons_of_mem inside
    have again : name ++ "=" ++ value =
        String.ofList front ++ "=" ++ String.ofList (back ++ '=' :: value.toList) :=
      String.toList_inj.mp (by simp [split])
    rw [again] at read
    have short := (Text.trim_sublist (String.ofList front)).length_le
    rw [← name_of_free (by simpa using free) read, String.toList_ofList] at short
    rw [split, List.length_append, List.length_cons] at long
    omega
  · refine ⟨inside, Text.trim_eq_of_length ?_⟩
    rwa [← name_of_free inside read]

theorem assignments_single_iff {s : String} {supplied : List (String × String)} :
    assignments [s] = .ok supplied ↔ ∃ pair, assignment s = .ok pair ∧ supplied = [pair] := by
  rw [assignments]
  cases assignment s with
  | error fault => simp
  | ok pair => simp [assignments, Except.map, eq_comm]

/-- An assignment gives the parameter its value, whatever is supplied with it, if that is enough and
names the parameter no more behind the assignment. -/
def Assignable (op : OperationDefinition) (name : String) : Prop :=
  ∀ value front back, Suffices op (front ++ (name, value) :: back) →
    (∀ later ∈ back, Text.sameName name later.1 = false) →
    ∃ supplied parameters, assignments [name ++ "=" ++ value] = .ok supplied ∧
      bindParameters op (front ++ supplied ++ back) = .ok parameters ∧
      parameters.get? name = some value

/-- A selection by the name asks for the parameter. -/
def Selectable (parameters : Parameters) (name : String) : Prop :=
  ∃ asked, OutputOptions.resolve ⟨some ("^" ++ name), false⟩ parameters.invocation =
      .ok (.parameter asked) ∧ parameters.canonical? asked = some name

variable {op : OperationDefinition} {parameters : Parameters}

/-- What is supplied for every parameter is enough, with a pair for one of them behind it. -/
theorem suffices_each (member : name ∈ op.parameterNames) (value : String) :
    Suffices op (op.parameterNames.map (fun other => (other, "")) ++ [(name, value)]) := by
  refine ⟨fun pair given => ?_, fun p given _ => ?_⟩
  · rcases List.mem_append.mp given with each | last
    · obtain ⟨other, declared, rfl⟩ := List.mem_map.mp each
      exact ⟨other, declared, Text.sameName_refl other⟩
    · rw [List.mem_singleton.mp last]
      exact ⟨name, member, Text.sameName_refl name⟩
  · have declared : p.name ∈ op.parameterNames := List.mem_map_of_mem given
    exact ⟨_, List.mem_append_left _ (List.mem_map_of_mem declared), Text.sameName_refl p.name⟩

/-- With a pair for another name behind them, parameters that were all left empty stay empty. -/
theorem get?_of_other (sound : op.Sound) (member : name ∈ op.parameterNames)
    (other : Text.sameName name pair.1 = false)
    (bound : bindParameters op (op.parameterNames.map (fun other => (other, "")) ++ [pair]) =
      .ok parameters) : parameters.get? name = some "" := by
  obtain ⟨earlier, later, names⟩ := List.append_of_mem member
  have distinct : ∀ other ∈ later, Text.sameName name other = false := by
    have all := sound.distinct
    rw [Distinct, names, List.pairwise_append] at all
    exact (List.pairwise_cons.mp all.2.1).1
  have supplied : op.parameterNames.map (fun other => (other, "")) ++ [pair] =
      earlier.map (fun other => (other, "")) ++
        (name, "") :: (later.map (fun other => (other, "")) ++ [pair]) := by
    simp [names]
  rw [supplied] at bound
  refine get?_bindParameters bound (Text.sameName_refl name) fun next behind => ?_
  refine mt (sound.canonical?_eq_iff rfl member).mp (Bool.eq_false_iff.mp ?_)
  rcases List.mem_append.mp behind with each | last
  · obtain ⟨declared, after, rfl⟩ := List.mem_map.mp each
    exact distinct declared after
  · rwa [List.mem_singleton.mp last]

theorem named_of_mem (sound : op.Sound) (member : name ∈ op.parameterNames) : name ≠ "" := by
  obtain ⟨p, given, rfl⟩ := List.mem_map.mp member
  exact (sound.parameters p given).named

theorem assignable_iff (sound : op.Sound) (member : name ∈ op.parameterNames) :
    Assignable op name ↔ '=' ∉ name.toList ∧ Text.trim name = name := by
  constructor
  · intro assignable
    -- If the name were read as another one, its parameter would be as empty as it was supplied.
    obtain ⟨supplied, parameters, assigned, bound, value⟩ :=
      assignable "a" _ [] (suffices_each member "a") nofun
    obtain ⟨pair, read, rfl⟩ := assignments_single_iff.mp assigned
    rw [List.append_nil] at bound
    cases same : Text.sameName name pair.1 with
    | true => exact written_of_assignment read (Nat.le_of_eq (Text.length_of_sameName same))
    | false =>
      rw [get?_of_other sound member same bound] at value
      exact absurd value (by decide)
  · rintro ⟨free, trimmed⟩ value front back enough unnamed
    have named := named_of_mem sound member
    obtain ⟨parameters, bound⟩ := bindParameters_ok enough.declared fun p given required _ =>
      enough.required p given required
    have assigned : assignments [name ++ "=" ++ value] = .ok [(name, value)] :=
      assignments_single_iff.mpr ⟨_, assignment_whole named free trimmed, rfl⟩
    exact ⟨_, parameters, assigned, by rwa [List.append_assoc, List.singleton_append],
      get?_bindParameters bound (Text.sameName_refl name) fun later behind =>
        mt (sound.canonical?_eq_iff rfl member).mp (Bool.eq_false_iff.mp (unnamed later behind))⟩

theorem select_of_trimmed (sound : op.Sound) (declared : parameters.declared = op.parameterNames)
    (member : name ∈ op.parameterNames) (trimmed : Text.trim name = name) :
    OutputOptions.resolve ⟨some ("^" ++ name), false⟩ parameters.invocation =
      .ok (.parameter name) := by
  have known : parameters.invocation.hasParameter name = true :=
    Option.isSome_iff_exists.mpr ⟨name, sound.canonical? declared member (Text.sameName_refl name)⟩
  refine OutputOptions.resolve_parameter_iff.mpr ⟨?_, known⟩
  rw [OutputOptions.wanted_select, Selection.ofText_caret, trimmed, if_neg (named_of_mem sound member)]

theorem asked_of_select {asked : String}
    (resolved : OutputOptions.resolve ⟨some ("^" ++ name), false⟩ parameters.invocation =
      .ok (.parameter asked)) : asked = Text.trim name := by
  have wanted := (OutputOptions.resolve_parameter_iff.mp resolved).1
  rw [OutputOptions.wanted_select, Selection.ofText_caret] at wanted
  split at wanted
  · cases wanted
  · cases wanted
    rfl

theorem selectable_iff (sound : op.Sound) (declared : parameters.declared = op.parameterNames)
    (member : name ∈ op.parameterNames) : Selectable parameters name ↔ Text.trim name = name := by
  constructor
  · rintro ⟨asked, resolved, found⟩
    have same := Parameters.sameName_of_canonical? found
    rw [asked_of_select resolved] at same
    exact Text.trim_eq_of_length (Nat.le_of_eq (Text.length_of_sameName same))
  · intro trimmed
    exact ⟨name, select_of_trimmed sound declared member trimmed,
      sound.canonical? declared member (Text.sameName_refl name)⟩

/-- Passing the primary parameter through asks for it under its declared spelling. -/
theorem passThru_primary (sound : op.Sound) (declared : parameters.declared = op.parameterNames)
    (primary : op.parameterNames.head? = some name) :
    OutputOptions.resolve ⟨none, true⟩ parameters.invocation = .ok (.parameter name) := by
  have member : name ∈ op.parameterNames := List.mem_of_head? primary
  have first : parameters.invocation.primary? = some name := (congrArg List.head? declared).trans primary
  have known : parameters.invocation.hasParameter name = true :=
    Option.isSome_iff_exists.mpr ⟨name, sound.canonical? declared member (Text.sameName_refl name)⟩
  exact OutputOptions.resolve_parameter_iff.mpr ⟨OutputOptions.wanted_passThru first, known⟩

/-- How a parameter of a loaded definition is reached from a command line: an assignment gives it its
value exactly if its name has no equals sign and no blanks around it, a selection asks for it exactly
if there are no blanks around its name, and only then the primary parameter is asked for as it is by
passing it through. -/
theorem reached_iff {text : String} {d : Definition} (loaded : load text = .ok d)
    (operation : op ∈ d.operations) (member : name ∈ op.parameterNames) :
    (Assignable op name ↔ '=' ∉ name.toList ∧ Text.trim name = name) ∧
    ∀ supplied parameters, bindParameters op supplied = .ok parameters →
      (Selectable parameters name ↔ Text.trim name = name) ∧
      (op.parameterNames.head? = some name →
        OutputOptions.resolve ⟨none, true⟩ parameters.invocation = .ok (.parameter name) ∧
        (OutputOptions.resolve ⟨some ("^" ++ name), false⟩ parameters.invocation =
          OutputOptions.resolve ⟨none, true⟩ parameters.invocation ↔ Text.trim name = name)) := by
  have sound := (sound_of_load loaded).operations op operation
  refine ⟨assignable_iff sound member, fun supplied parameters bound => ?_⟩
  have declared := declared_bindParameters bound
  refine ⟨selectable_iff sound declared member, fun primary => ?_⟩
  have passed := passThru_primary sound declared primary
  refine ⟨passed, fun same => ?_, fun trimmed => ?_⟩
  · rw [passed] at same
    exact (asked_of_select same).symm
  · rw [passed]
    exact select_of_trimmed sound declared member trimmed

end Pager.CommandLine

namespace Pager.SpacedFolder

open CommandLine

/-- A definition with names that have a blank in front and an equals sign inside. -/
def text : String :=
  "name: s
base_url: http://h
operations:
- name: list
  path: /p
" ++
  "  parameters:
  - name: ' Folder'
    default: inbox
  - name: sort=by
  - name: Order
" ++
  "  cursor: {param: c, location: query}
"

def operation : OperationDefinition where
  name := "list"
  description := none
  method := .get
  path := "/p"
  parameters := [⟨" Folder", false, some "inbox", none⟩, ⟨"sort=by", false, none, none⟩,
    ⟨"Order", false, none, none⟩]
  params := []
  headers := []
  body := none
  cursor := ⟨"c", .query, none⟩
  pageSize := none
  itemsPath := none

def definition : Definition :=
  ⟨"s", "http://h", .standard, [], [operation]⟩

def parameters : Parameters :=
  ⟨[" Folder", "sort=by", "Order"], [(" Folder", "inbox")]⟩

theorem load : Definition.load text = .ok definition := by
  have chars : text = String.ofList _ := Text.append_eq_ofList (Text.append_eq_ofList rfl rfl) rfl
  have loaded : (Definition.load text).toOption = some definition := by
    rw [Definition.load, Definition.ofYaml, Yaml.Document.ofText, chars, Yaml.eventsOf_ofList]
    decide +kernel
  exact Except.toOption_eq_some.mp loaded

theorem bindParameters : Definition.bindParameters operation [] = .ok parameters :=
  rfl

/-- The order is reached in both ways, the sorting by a selection only, and the folder in none. -/
theorem order_reached :
    Assignable operation "Order" ∧ Selectable parameters "Order" ∧
    ¬ Assignable operation "sort=by" ∧ Selectable parameters "sort=by" ∧
    ¬ Assignable operation " Folder" ∧ ¬ Selectable parameters " Folder" := by
  have reached (name : String) (declared : name ∈ operation.parameterNames) :=
    reached_iff load List.mem_cons_self declared
  have selected (name : String) (declared : name ∈ operation.parameterNames) :
      Selectable parameters name ↔ Text.trim name = name :=
    ((reached name declared).2 [] parameters bindParameters).1
  refine ⟨(reached "Order" (by decide)).1.mpr (by decide),
    (selected "Order" (by decide)).mpr (by decide), ?_,
    (selected "sort=by" (by decide)).mpr (by decide), ?_, ?_⟩
  · exact fun assignable =>
      absurd ((reached "sort=by" (by decide)).1.mp assignable) (by decide)
  · exact fun assignable =>
      absurd ((reached " Folder" (by decide)).1.mp assignable) (by decide)
  · exact fun selectable => absurd ((selected " Folder" (by decide)).mp selectable) (by decide)

/-- The folder is passed through, and neither asked for behind a caret nor given a value: its name is
read as another one, which is no parameter. -/
theorem folder_unreached : ∃ d op parameters, Definition.load text = .ok d ∧ op ∈ d.operations ∧
    op.parameterNames.head? = some " Folder" ∧ Definition.bindParameters op [] = .ok parameters ∧
    OutputOptions.resolve ⟨none, true⟩ parameters.invocation = .ok (.parameter " Folder") ∧
    OutputOptions.resolve ⟨some "^ Folder", false⟩ parameters.invocation =
      .error (.invalidArgument "select" "'Folder' is not a parameter of this operation") ∧
    assignments [" Folder=a"] = .ok [("Folder", "a")] ∧
    Definition.bindParameters op [("Folder", "a")] =
      .error (.invalidArgument "Folder" "not a parameter of this operation") := by
  refine ⟨definition, operation, parameters, load, List.mem_cons_self, rfl, bindParameters, ?_, ?_, ?_, ?_⟩
  · exact Except.toOption_eq_some.mp (by decide)
  · exact Except.fault?_eq_some.mp (by decide)
  · exact Except.toOption_eq_some.mp (by decide)
  · exact Except.fault?_eq_some.mp (by decide)

end Pager.SpacedFolder

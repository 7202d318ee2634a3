import Pager.Definition.Defect
import Pager.Proofs.Parameters

namespace Pager

/-- Names that stay different when the case of ASCII letters is ignored. -/
def Distinct (names : List String) : Prop :=
  names.Pairwise fun a b => Text.sameName a b = false

structure ParameterDefinition.Sound (p : ParameterDefinition) : Prop where
  named : p.name ≠ ""
  optional_of_default : p.required = true → p.default = none

structure OperationDefinition.Sound (op : OperationDefinition) : Prop where
  named : op.name ≠ ""
  addressed : op.path ≠ ""
  cursor : op.cursor.param ≠ ""
  parameters : ∀ p ∈ op.parameters, p.Sound
  distinct : Distinct op.parameterNames
  pages : ∀ size ∈ op.pageSize, size.value ≠ 0

structure Definition.Sound (d : Definition) : Prop where
  named : d.name ≠ ""
  base : ∃ url, Url.ofText d.baseUrl = .ok url
  given : d.operations ≠ []
  distinct : Distinct d.operationNames
  operations : ∀ op ∈ d.operations, op.Sound

namespace Definition

theorem distinct_of_hasRepeat {names : List String} (unrepeated : hasRepeat names = false) :
    Distinct names := by
  induction names with
  | nil => exact .nil
  | cons name rest ih =>
    rw [hasRepeat, Bool.or_eq_false_iff, List.any_eq_false] at unrepeated
    exact .cons (fun other member => Bool.eq_false_iff.mpr (unrepeated.1 other member))
      (ih unrepeated.2)

/-- Parameters without a defect, behind those of the given names. -/
theorem parameters_of_defect {op : String} {seen : List String} {ps : List ParameterDefinition}
    (flawless : parameterDefect? op seen ps = none) :
    (∀ p ∈ ps, p.Sound) ∧ Distinct (ps.map ParameterDefinition.name) ∧
      ∀ p ∈ ps, ∀ name ∈ seen, Text.sameName p.name name = false := by
  induction ps generalizing seen with
  | nil => exact ⟨nofun, .nil, nofun⟩
  | cons p rest ih =>
    rw [parameterDefect?] at flawless
    split at flawless
    · cases flawless
    · next named =>
      split at flawless
      · cases flawless
      · next fresh =>
        split at flawless
        · cases flawless
        · next optional =>
          obtain ⟨sound, distinct, apart⟩ := ih flawless
          have own : p.Sound := ⟨named, fun required => by simpa [required] using optional⟩
          have unseen : ∀ name ∈ seen, Text.sameName p.name name = false := by
            simpa using fresh
          refine ⟨List.forall_mem_cons.mpr ⟨own, sound⟩, ?_, List.forall_mem_cons.mpr ⟨unseen, ?_⟩⟩
          · refine .cons (fun name member => ?_) distinct
            obtain ⟨q, later, rfl⟩ := List.mem_map.mp member
            rw [Text.sameName_comm]
            exact apart q later p.name List.mem_cons_self
          · exact fun q later name member => apart q later name (List.mem_cons_of_mem _ member)

theorem sound_of_operationDefect {op : OperationDefinition} (flawless : operationDefect? op = none) :
    op.Sound := by
  rw [operationDefect?] at flawless
  split at flawless
  · cases flawless
  · next named =>
    split at flawless
    · cases flawless
    · next addressed =>
      split at flawless
      · cases flawless
      · next cursor =>
        split at flawless
        · cases flawless
        · next parameters =>
          obtain ⟨sound, distinct, _⟩ := parameters_of_defect parameters
          refine ⟨named, addressed, cursor, sound, distinct, fun size given empty => ?_⟩
          rw [Option.mem_def.mp given] at flawless
          simp [empty] at flawless

theorem sound_of_defect {d : Definition} (flawless : d.defect? = none) : d.Sound := by
  rw [defect?] at flawless
  split at flawless
  · cases flawless
  · next named =>
    split at flawless
    · cases flawless
    · split at flawless
      · cases flawless
      · next url read =>
        split at flawless
        · cases flawless
        · next given =>
          split at flawless
          · cases flawless
          · next distinct =>
            refine ⟨named, ⟨url, read⟩, by simpa using given,
              distinct_of_hasRepeat (Bool.eq_false_iff.mpr distinct), fun op member => ?_⟩
            exact sound_of_operationDefect (List.findSome?_eq_none_iff.mp flawless op member)

/-- What is loaded has no defect. -/
theorem sound_of_load {text : String} {d : Definition} (loaded : load text = .ok d) : d.Sound := by
  rw [load] at loaded
  split at loaded
  · cases loaded
  · split at loaded
    · cases loaded
    · next flawless =>
      cases loaded
      exact sound_of_defect flawless

/-- An operation is found by its name, in whatever case. -/
theorem Sound.operation? {d : Definition} (sound : d.Sound) {op : OperationDefinition}
    (member : op ∈ d.operations) {name : String} (same : Text.sameName op.name name = true) :
    d.operation? name = some op :=
  Text.find?_sameName OperationDefinition.name sound.distinct member same

end Definition

/-- A parameter is found by its name, in whatever case. -/
theorem OperationDefinition.Sound.canonical? {op : OperationDefinition} (sound : op.Sound)
    {p : Parameters} (declared : p.declared = op.parameterNames) {parameter name : String}
    (member : parameter ∈ op.parameterNames) (same : Text.sameName parameter name = true) :
    p.canonical? name = some parameter := by
  have distinct : Distinct (op.parameterNames.map id) := by
    rw [List.map_id]
    exact sound.distinct
  rw [Parameters.canonical?, declared]
  exact Text.find?_sameName id distinct member same

/-- Only names that are the same are looked up as one parameter. -/
theorem OperationDefinition.Sound.canonical?_eq_iff {op : OperationDefinition} (sound : op.Sound)
    {p : Parameters} (declared : p.declared = op.parameterNames) {parameter name : String}
    (member : parameter ∈ op.parameterNames) :
    p.canonical? parameter = p.canonical? name ↔ Text.sameName parameter name = true := by
  rw [sound.canonical? declared member (Text.sameName_refl parameter)]
  constructor
  · intro found
    exact Parameters.sameName_of_canonical? found.symm
  · intro same
    exact (sound.canonical? declared member same).symm

end Pager

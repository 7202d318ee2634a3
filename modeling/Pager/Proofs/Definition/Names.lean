import Mathlib.Data.Finset.Card
import Pager.Proofs.Definition.Sound
import Pager.Proofs.Text.Letters

namespace Pager

open Text (EqualIgnoringCase equalIgnoringCase_iff)

/-- Two positions hold names that are equal when the case of ASCII letters is ignored. -/
def Clash (names : List String) : Prop :=
  ∃ (i j : Nat) (a b : String),
    i ≠ j ∧ names[i]? = some a ∧ names[j]? = some b ∧ EqualIgnoringCase a b

theorem distinct_iff_not_clash {names : List String} : Distinct names ↔ ¬ Clash names := by
  rw [Distinct, List.pairwise_iff_getElem]
  constructor
  · rintro apart ⟨i, j, a, b, other, first, second, equal⟩
    obtain ⟨hi, rfl⟩ := List.getElem?_eq_some_iff.mp first
    obtain ⟨hj, rfl⟩ := List.getElem?_eq_some_iff.mp second
    have same := equalIgnoringCase_iff.mp equal
    rcases Nat.lt_or_gt_of_ne other with before | behind
    · exact Bool.eq_false_iff.mp (apart i j hi hj before) same
    · rw [Text.sameName_comm] at same
      exact Bool.eq_false_iff.mp (apart j i hj hi behind) same
  · intro free i j hi hj before
    refine Bool.eq_false_iff.mpr fun same => free ⟨i, j, names[i], names[j], Nat.ne_of_lt before, ?_⟩
    exact ⟨List.getElem?_eq_getElem hi, List.getElem?_eq_getElem hj, equalIgnoringCase_iff.mpr same⟩

/-- A name of a list without clashes stands at one position. -/
theorem Distinct.position_unique {names : List String} (distinct : Distinct names) {i j : Nat}
    {a b name : String} (first : names[i]? = some a) (second : names[j]? = some b)
    (own : EqualIgnoringCase a name) (other : EqualIgnoringCase b name) : j = i := by
  by_contra apart
  refine distinct_iff_not_clash.mp distinct ⟨j, i, b, a, apart, second, first, ?_⟩
  rw [equalIgnoringCase_iff, Text.sameName_iff] at own other ⊢
  exact other.trans own.symm

namespace Definition

theorem hasRepeat_eq_false_iff {names : List String} : hasRepeat names = false ↔ Distinct names := by
  refine ⟨distinct_of_hasRepeat, fun distinct => ?_⟩
  induction distinct with
  | nil => rfl
  | cons apart _ ih =>
    rw [hasRepeat, ih, Bool.or_false, List.any_eq_false]
    exact fun other member => Bool.eq_false_iff.mp (apart other member)

theorem hasRepeat_iff_clash {names : List String} : hasRepeat names = true ↔ Clash names := by
  rw [← not_iff_not, Bool.not_eq_true, hasRepeat_eq_false_iff, distinct_iff_not_clash]

/-- Names are repeated exactly if there are fewer of them once they are lowered and put in a set. -/
theorem hasRepeat_iff_card {names : List String} :
    hasRepeat names = true ↔ (names.map Text.lowerAscii).toFinset.card < names.length := by
  have apart : (names.map Text.lowerAscii).Nodup ↔ hasRepeat names = false := by
    rw [hasRepeat_eq_false_iff, List.Nodup, List.pairwise_map, Distinct]
    simp only [← Bool.not_eq_true, Text.sameName_iff, ne_eq]
  have most := (names.map Text.lowerAscii).toFinset_card_le
  have all : (names.map Text.lowerAscii).toFinset.card = (names.map Text.lowerAscii).length ↔
      (names.map Text.lowerAscii).Nodup :=
    Multiset.toFinset_card_eq_card_iff_nodup
  rw [List.length_map] at most all
  rw [← not_iff_not, Bool.not_eq_true, ← apart, ← all]
  omega

theorem Sound.named_operation {d : Definition} (sound : d.Sound) {i : Nat} {op : OperationDefinition}
    {name : String} (at_i : d.operations[i]? = some op) (equal : EqualIgnoringCase op.name name) :
    d.operation? name = some op ∧
    ∀ (k : Nat) (other : OperationDefinition),
      d.operations[k]? = some other → EqualIgnoringCase other.name name → k = i := by
  have same := equalIgnoringCase_iff.mp equal
  refine ⟨sound.operation? (List.mem_of_getElem? at_i) same, fun k other at_k also => ?_⟩
  have first : d.operationNames[i]? = some op.name := by
    rw [operationNames, List.getElem?_map, at_i, Option.map_some]
  have second : d.operationNames[k]? = some other.name := by
    rw [operationNames, List.getElem?_map, at_k, Option.map_some]
  exact sound.distinct.position_unique first second equal also

/-- Names that clash keep a definition from being loaded. -/
theorem defect_of_clash {d : Definition}
    (clash : Clash d.operationNames ∨ ∃ op ∈ d.operations, Clash op.parameterNames) :
    d.defect? ≠ none := by
  intro flawless
  have sound := sound_of_defect flawless
  rcases clash with names | ⟨op, member, names⟩
  · exact distinct_iff_not_clash.mp sound.distinct names
  · exact distinct_iff_not_clash.mp (sound.operations op member).distinct names

theorem load_of_defect {d : Definition} {text : String} (read : ofYaml text = .ok d)
    (faulty : d.defect? ≠ none) : ∃ message, load text = .error (.config message) := by
  obtain ⟨defect, found⟩ := Option.ne_none_iff_exists'.mp faulty
  refine ⟨defect.message, ?_⟩
  simp only [load, read, found]

end Definition

theorem OperationDefinition.Sound.named_parameter {op : OperationDefinition} (sound : op.Sound)
    {j : Nat} {parameter name : String} (at_j : op.parameterNames[j]? = some parameter)
    (equal : EqualIgnoringCase parameter name) :
    (∀ p : Parameters, p.declared = op.parameterNames → p.canonical? name = some parameter) ∧
    ∀ (k : Nat) (other : String), op.parameterNames[k]? = some other →
      EqualIgnoringCase other name → k = j :=
  ⟨fun _ declared =>
    sound.canonical? declared (List.mem_of_getElem? at_j) (equalIgnoringCase_iff.mp equal),
    fun _ _ at_k also => sound.distinct.position_unique at_j at_k equal also⟩

/-- Without a defect, whatever is equal to a name when the case of ASCII letters is ignored stands for the
operation at the name's position, and no operation at another position has such a name; the same holds
of the parameters of each operation, whatever values are bound to them. Where two names of operations
clash, or two names of an operation's parameters, there is a defect and nothing is loaded. -/
theorem Definition.names_unambiguous (d : Definition) :
    (d.defect? = none →
      (∀ i op name, d.operations[i]? = some op → EqualIgnoringCase op.name name →
        d.operation? name = some op ∧
        ∀ (k : Nat) (other : OperationDefinition), d.operations[k]? = some other →
          EqualIgnoringCase other.name name → k = i) ∧
      ∀ op ∈ d.operations, ∀ j parameter name,
        op.parameterNames[j]? = some parameter → EqualIgnoringCase parameter name →
        (∀ p : Parameters, p.declared = op.parameterNames → p.canonical? name = some parameter) ∧
        ∀ (k : Nat) (other : String), op.parameterNames[k]? = some other →
          EqualIgnoringCase other name → k = j) ∧
    (Clash d.operationNames ∨ (∃ op ∈ d.operations, Clash op.parameterNames) →
      d.defect? ≠ none ∧
      ∀ text, ofYaml text = .ok d → ∃ message, load text = .error (.config message)) := by
  refine ⟨fun flawless => ?_, fun clash => ?_⟩
  · have sound := sound_of_defect flawless
    refine ⟨fun i op name at_i equal => sound.named_operation at_i equal, ?_⟩
    intro op member j parameter name at_j equal
    exact (sound.operations op member).named_parameter at_j equal
  · have faulty := defect_of_clash clash
    exact ⟨faulty, fun text read => load_of_defect read faulty⟩

namespace TwinNames

def operation (name : String) : OperationDefinition where
  name := name
  description := none
  method := .get
  path := "/p"
  parameters := [⟨"Maß", false, none, none⟩, ⟨"Ö", false, none, none⟩, ⟨"ö", false, none, none⟩]
  params := []
  headers := []
  body := none
  cursor := ⟨"c", .query, none⟩
  pageSize := none
  itemsPath := none

def definition (names : List String) : Definition :=
  ⟨"s", "http://h", .standard, [], names.map operation⟩

/-- A definition with two operations of one name, but for its case. -/
def text : String :=
  "name: s\nbase_url: http://h\noperations:\n" ++
  "- name: list\n  path: /p\n  parameters:\n  - name: Maß\n  - name: Ö\n  - name: ö\n" ++
  "  cursor: \x7bparam: c, location: query\x7d\n" ++
  "- name: LIST\n  path: /p\n  parameters:\n  - name: Maß\n  - name: Ö\n  - name: ö\n" ++
  "  cursor: \x7bparam: c, location: query\x7d\n"

theorem read : Definition.ofYaml text = .ok (definition ["list", "LIST"]) := by
  have chars : text = String.ofList _ :=
    Text.append_eq_ofList (Text.append_eq_ofList (Text.append_eq_ofList
      (Text.append_eq_ofList rfl rfl) rfl) rfl) rfl
  have made : (Definition.ofYaml text).toOption = some (definition ["list", "LIST"]) := by
    rw [Definition.ofYaml, Yaml.Document.ofText, chars, Yaml.eventsOf_ofList]
    decide +kernel
  exact Except.toOption_eq_some.mp made

/-- ASCII letters are found in either case, other letters in their own, and the twins are refused. -/
theorem twins_refused :
    (definition ["list", "Search"]).defect? = none ∧
    (definition ["list", "Search"]).operation? "SEARCH" = some (operation "Search") ∧
    (Parameters.ofNames (operation "list").parameterNames).canonical? "mAß" = some "Maß" ∧
    (Parameters.ofNames (operation "list").parameterNames).canonical? "ö" = some "ö" ∧
    Clash (definition ["list", "LIST"]).operationNames ∧
    ∃ message, Definition.load text = .error (.config message) := by
  have fine : (definition ["list", "Search"]).defect? = none := by decide +kernel
  obtain ⟨operations, parameters⟩ := (Definition.names_unambiguous _).1 fine
  have lists : operation "list" ∈ (definition ["list", "Search"]).operations := List.mem_cons_self
  have search := (operations 1 (operation "Search") "SEARCH" rfl (by decide)).1
  have mass := (parameters _ lists 0 "Maß" "mAß" rfl (by decide)).1 (.ofNames _) rfl
  have small := (parameters _ lists 2 "ö" "ö" rfl (by decide)).1 (.ofNames _) rfl
  have clash : Clash (definition ["list", "LIST"]).operationNames :=
    ⟨0, 1, "list", "LIST", by decide, rfl, rfl, by decide⟩
  obtain ⟨_, refused⟩ := (Definition.names_unambiguous _).2 (.inl clash)
  exact ⟨fine, search, mass, small, clash, refused text read⟩

end TwinNames

end Pager

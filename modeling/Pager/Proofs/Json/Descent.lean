import Pager.Json.Path
import Pager.Proofs.Json.Reader
import Pager.Proofs.Text.Digits

namespace Pager.Json

variable {v w : Json} {part : String} {parts : List String}

/-- A part that writes an index, and one that fits a machine word. -/
def IsIndex (part : String) (i : Nat) : Prop :=
  Text.WritesNat part.toList i ∧ i < Nat.pow 2 64

/-- What a part leads to: the field of this name in an object, the item of this index in a list. -/
inductive Child : Json → String → Json → Prop
  | field {fields : Fields Json} {name : String} {w : Json} :
      fields.First name w → Child (.object fields) name w
  | item {items : List Json} {part : String} {i : Nat} {w : Json} :
      IsIndex part i → items[i]? = some w → Child (.list items) part w

/-- A part that leads nowhere: there is no field of this name, it is no index or none of an item, or the
value is neither an object nor a list. -/
inductive Blocked : Json → String → Prop
  | absent {fields : Fields Json} {name : String} : name ∉ fields.names → Blocked (.object fields) name
  | noIndex {items : List Json} {part : String} : (∀ i, ¬ IsIndex part i) → Blocked (.list items) part
  | beyond {items : List Json} {part : String} {i : Nat} :
      IsIndex part i → items.length ≤ i → Blocked (.list items) part
  | scalar {v : Json} {part : String} :
      (∀ items, v ≠ .list items) → (∀ fields, v ≠ .object fields) → Blocked v part

/-- What parts lead to, one after the other. -/
inductive Reached : Json → List String → Json → Prop
  | here (v : Json) : Reached v [] v
  | further {v u w : Json} {part : String} {parts : List String} :
      Child v part u → Reached u parts w → Reached v (part :: parts) w

theorem index?_eq_some_iff {i : Nat} : index? part = some i ↔ IsIndex part i :=
  Text.natBelow?_eq_some_iff

theorem index?_eq_none_iff : index? part = none ↔ ∀ i, ¬ IsIndex part i := by
  simp only [Option.eq_none_iff_forall_ne_some, ← index?_eq_some_iff, ne_eq]

theorem child?_eq_some_iff : v.child? part = some w ↔ Child v part w := by
  constructor
  · intro found
    cases v with
    | object fields => exact .field (Fields.find?_eq_some_iff.mp found)
    | list items =>
      obtain ⟨i, read, there⟩ := Option.bind_eq_some_iff.mp found
      exact .item (index?_eq_some_iff.mp read) there
    | null | bool | number | text => cases found
  · rintro (first | ⟨index, there⟩)
    · exact Fields.find?_eq_some_iff.mpr first
    · exact Option.bind_eq_some_iff.mpr ⟨_, index?_eq_some_iff.mpr index, there⟩

theorem child?_eq_none_iff : v.child? part = none ↔ Blocked v part := by
  constructor
  · intro nowhere
    cases v with
    | object fields => exact .absent (Fields.find?_eq_none_iff.mp nowhere)
    | list items =>
      cases read : index? part with
      | none => exact .noIndex (index?_eq_none_iff.mp read)
      | some i =>
        have index := index?_eq_some_iff.mp read
        rw [child?, read, Option.bind_some, List.getElem?_eq_none_iff] at nowhere
        exact .beyond index nowhere
    | null | bool | number | text => exact .scalar nofun nofun
  · rintro (absent | noIndex | ⟨index, beyond⟩ | ⟨noList, noObject⟩)
    · exact Fields.find?_eq_none_iff.mpr absent
    · rw [child?, index?_eq_none_iff.mpr noIndex, Option.bind_none]
    · rw [child?, index?_eq_some_iff.mpr index, Option.bind_some, List.getElem?_eq_none_iff]
      exact beyond
    · cases v with
      | object fields => exact absurd rfl (noObject fields)
      | list items => exact absurd rfl (noList items)
      | null | bool | number | text => rfl

theorem descend_eq_some_iff : v.descend parts = some w ↔ Reached v parts w := by
  induction parts generalizing v with
  | nil =>
    constructor
    · rintro ⟨⟩
      exact .here _
    · rintro ⟨⟩
      rfl
  | cons part parts ih =>
    rw [descend, Option.bind_eq_some_iff]
    constructor
    · rintro ⟨u, first, later⟩
      exact .further (child?_eq_some_iff.mp first) (ih.mp later)
    · rintro (_ | ⟨first, later⟩)
      exact ⟨_, child?_eq_some_iff.mpr first, ih.mpr later⟩

/-- A descent fails exactly if it comes to a part that leads nowhere. -/
theorem descend_eq_none_iff :
    v.descend parts = none ↔
      ∃ front part back u, parts = front ++ part :: back ∧ Reached v front u ∧ Blocked u part := by
  induction parts generalizing v with
  | nil =>
    refine iff_of_false (Option.some_ne_none v) ?_
    rintro ⟨front, part, back, _, same, _⟩
    simp at same
  | cons first parts ih =>
    rw [descend]
    cases found : v.child? first with
    | none =>
      exact iff_of_true rfl ⟨[], first, parts, v, rfl, .here v, child?_eq_none_iff.mp found⟩
    | some next =>
      have step := child?_eq_some_iff.mp found
      rw [Option.bind_some, ih]
      constructor
      · rintro ⟨front, part, back, u, rfl, reached, blocked⟩
        exact ⟨first :: front, part, back, u, rfl, .further step reached, blocked⟩
      · rintro ⟨front, part, back, u, same, reached, blocked⟩
        cases reached with
        | here =>
          obtain ⟨rfl, rfl⟩ := List.cons.inj same
          rw [child?_eq_none_iff.mpr blocked] at found
          cases found
        | further other reached =>
          obtain ⟨rfl, rfl⟩ := List.cons.inj same
          rw [child?_eq_some_iff.mpr other] at found
          cases found
          exact ⟨_, part, back, u, rfl, reached, blocked⟩

/-- Whether a part writes a step. -/
def Step.Written : Step → String → Prop
  | .item i, part => IsIndex part i
  | .field name, part => part = name

/-- A step as it is written in a path: an index in decimal, a field by its name. -/
def Step.text : Step → String
  | .item i => String.ofList (Decimal.natText i)
  | .field name => name

/-- A step that can be written in a path: an index that fits a machine word, a name without dots. -/
def Step.Fits : Step → Prop
  | .item i => i < Nat.pow 2 64
  | .field name => '.' ∉ name.toList

instance (step : Step) : Decidable step.Fits :=
  match step with
  | .item i => inferInstanceAs (Decidable (i < Nat.pow 2 64))
  | .field name => inferInstanceAs (Decidable ('.' ∉ name.toList))

/-- What parts lead to stands in the value, at the end of a route the parts write. -/
theorem Reached.exists_at (reached : Reached v parts w) :
    ∃ route, List.Forall₂ Step.Written route parts ∧ v.At route w := by
  induction reached with
  | here v => exact ⟨[], .nil, .here v⟩
  | further step _ ih =>
    obtain ⟨route, written, inside⟩ := ih
    cases step with
    | field first =>
      obtain ⟨front, back, rfl, _⟩ := first
      exact ⟨.field _ :: route, .cons rfl written, .field List.mem_append_cons_self inside⟩
    | item index there => exact ⟨.item _ :: route, .cons index written, .item there inside⟩

theorem Step.written_text {i : Nat} (fits : (Step.item i).Fits) : IsIndex (Step.item i).text i := by
  refine ⟨⟨[], 0, .inl rfl, ?_⟩, fits⟩
  rw [Step.text, String.toList_ofList]
  rfl

theorem Step.dot_not_mem_text {step : Step} (fits : step.Fits) : '.' ∉ step.text.toList := by
  cases step with
  | field name => exact fits
  | item i =>
    rw [Step.text, String.toList_ofList]
    exact fun dot => absurd (Text.isDigit_natText i '.' dot) (by decide)

/-- What stands in a value is reached by the steps on the way to it, as they are written. -/
theorem At.reached {route : List Step} (inside : v.At route w) (once : v.NamedOnce)
    (fits : ∀ step ∈ route, step.Fits) : Reached v (route.map Step.text) w := by
  induction inside with
  | here v => exact .here v
  | @item items i u w route there _ ih =>
    obtain ⟨first, others⟩ := List.forall_mem_cons.mp fits
    refine .further (.item (Step.written_text first) there) (ih ?_ others)
    exact fun deeper fields => once (.item i :: deeper) fields ∘ .item there
  | @field fields name u w route member _ ih =>
    obtain ⟨_, others⟩ := List.forall_mem_cons.mp fits
    have named : (Fields.names fields).Nodup := once [] fields (.here _)
    refine .further (.field (Fields.first_of_mem named member)) (ih ?_ others)
    exact fun deeper fields => once (.field name :: deeper) fields ∘ .field member

end Pager.Json

import Mathlib.Data.List.Forall2
import Pager.Proofs.Fields
import Pager.Proofs.Template.Substitution

namespace Pager.Template

variable {ctx : Context}

/-- What a value is rendered to. A list keeps its items in their order. Of an object every field becomes
a pair of a rendered name and a rendered value, in the order of the fields, and of the pairs of one name
the last is kept. -/
inductive Renders (ctx : Context) : Json → Json → Prop
  | null : Renders ctx .null .null
  | bool (b : Bool) : Renders ctx (.bool b) (.bool b)
  | number (n : Number) : Renders ctx (.number n) (.number n)
  | text {s t : String} : render ctx s = .ok t → Renders ctx (.text s) (.text t)
  | list {items rendered : List Json} :
      List.Forall₂ (Renders ctx) items rendered → Renders ctx (.list items) (.list rendered)
  | object {fields pairs rendered : List (String × Json)} :
      List.Forall₂ (fun field pair => render ctx field.1 = .ok pair.1) fields pairs →
      List.Forall₂ (fun field pair => Renders ctx field.2 pair.2) fields pairs →
      Fields.KeepsLast pairs rendered → Renders ctx (.object fields) (.object rendered)

mutual

/-- By recursion on the value, one case for each kind. -/
theorem renderValue_iff_renders (v : Json) {w : Json} :
    renderValue ctx v = .ok w ↔ Renders ctx v w := by
  cases v with
  | null | bool b | number n =>
    simp only [renderValue, Except.ok.injEq]
    constructor
    · rintro rfl
      constructor
    · intro renders
      cases renders
      rfl
  | text s =>
    rw [renderValue, Except.map_eq_ok]
    constructor
    · rintro ⟨t, rendered, rfl⟩
      exact .text rendered
    · rintro ⟨⟩
      exact ⟨_, ‹_›, rfl⟩
  | list items =>
    rw [renderValue, Except.map_eq_ok]
    simp only [renderItems_iff_renders items]
    constructor
    · rintro ⟨rendered, each, rfl⟩
      exact .list each
    · rintro ⟨⟩
      exact ⟨_, ‹_›, rfl⟩
  | object fields =>
    rw [renderValue, Except.map_eq_ok]
    simp only [renderFields_iff_renders fields]
    constructor
    · rintro ⟨pairs, ⟨names, values⟩, rfl⟩
      exact .object names values (Fields.keepsLast_ofPairs pairs)
    · rintro (_ | _ | _ | _ | _ | ⟨names, values, kept⟩)
      exact ⟨_, ⟨names, values⟩, congrArg Json.object (Fields.keepsLast_iff.mp kept)⟩

theorem renderItems_iff_renders (vs : List Json) {ws : List Json} :
    renderItems ctx vs = .ok ws ↔ List.Forall₂ (Renders ctx) vs ws := by
  cases vs with
  | nil => rw [renderItems, List.forall₂_nil_left_iff, Except.ok.injEq, eq_comm]
  | cons v vs =>
    rw [renderItems_cons_ok_iff]
    simp only [renderValue_iff_renders v, renderItems_iff_renders vs]
    constructor
    · rintro ⟨w, rest, first, others, rfl⟩
      exact .cons first others
    · rintro (_ | ⟨first, others⟩)
      exact ⟨_, _, first, others, rfl⟩

theorem renderFields_iff_renders (fields : List (String × Json)) {pairs : List (String × Json)} :
    renderFields ctx fields = .ok pairs ↔
      List.Forall₂ (fun field pair => render ctx field.1 = .ok pair.1) fields pairs ∧
      List.Forall₂ (fun field pair => Renders ctx field.2 pair.2) fields pairs := by
  cases fields with
  | nil => simp only [renderFields, List.forall₂_nil_left_iff, Except.ok.injEq, and_self, eq_comm]
  | cons field rest =>
    rw [renderFields_cons_ok_iff]
    simp only [renderValue_iff_renders field.2, renderFields_iff_renders rest]
    constructor
    · rintro ⟨name, w, others, named, rendered, ⟨names, values⟩, rfl⟩
      exact ⟨.cons named names, .cons rendered values⟩
    · rintro ⟨_ | ⟨named, names⟩, _ | ⟨rendered, values⟩⟩
      exact ⟨_, _, _, named, rendered, ⟨names, values⟩, rfl⟩

end

/-- The fault of the first template that has one. -/
def firstFault? (ctx : Context) (templates : List String) : Option Fault :=
  templates.findSome? fun template => Except.fault? (render ctx template)

theorem firstFault?_append (front back : List String) :
    firstFault? ctx (front ++ back) = (firstFault? ctx front).or (firstFault? ctx back) :=
  List.findSome?_append

theorem firstFault?_singleton (template : String) :
    firstFault? ctx [template] = Except.fault? (render ctx template) := by
  cases fault : Except.fault? (render ctx template) <;> simp [firstFault?, fault]

mutual

/-- The texts of a value are rendered in their order, and the first fault ends it. -/
theorem fault?_renderValue (v : Json) :
    Except.fault? (renderValue ctx v) = firstFault? ctx v.texts := by
  cases v with
  | null | bool b | number n => simp [renderValue, Json.texts, firstFault?, Except.fault?]
  | text s => rw [renderValue, Except.fault?_map, Json.texts, firstFault?_singleton]
  | list items => rw [renderValue, Except.fault?_map, fault?_renderItems items, Json.texts]
  | object fields => rw [renderValue, Except.fault?_map, fault?_renderFields fields, Json.texts]

theorem fault?_renderItems (vs : List Json) :
    Except.fault? (renderItems ctx vs) = firstFault? ctx (Json.textsOfItems vs) := by
  cases vs with
  | nil => rfl
  | cons v vs =>
    rw [Json.textsOfItems, firstFault?_append, ← fault?_renderValue v, ← fault?_renderItems vs,
      renderItems]
    cases renderValue ctx v with
    | error fault => rfl
    | ok w => exact Except.fault?_map _ _

theorem fault?_renderFields (fields : List (String × Json)) :
    Except.fault? (renderFields ctx fields) = firstFault? ctx (Json.textsOfFields fields) := by
  cases fields with
  | nil => rfl
  | cons field rest =>
    have split : Json.textsOfFields (field :: rest) =
      [field.1] ++ (field.2.texts ++ Json.textsOfFields rest) := rfl
    rw [split, firstFault?_append, firstFault?_append, firstFault?_singleton,
      ← fault?_renderValue field.2, ← fault?_renderFields rest, renderFields]
    cases render ctx field.1 with
    | error fault => rfl
    | ok name =>
      cases renderValue ctx field.2 with
      | error fault => rfl
      | ok w => exact Except.fault?_map _ _

end

/-- Rendering a value of JSON follows its structure. It succeeds exactly if every variable in its texts
and field names, at any depth, has a value; what comes out is then what the value renders to, part by
part; and else the fault is that of the first of these texts, in their order, that cannot be rendered. -/
theorem renderValue_structural (ctx : Context) (v : Json) :
    ((∃ w, renderValue ctx v = .ok w) ↔
      ∀ template ∈ v.texts, ∀ name ∈ variableNames template, ∃ value, ctx.get name = some value) ∧
    (∀ w, renderValue ctx v = .ok w ↔ Renders ctx v w) ∧
    (∀ fault, renderValue ctx v = .error fault ↔
      ∃ before template after, v.texts = before ++ template :: after ∧
        (∀ earlier ∈ before, ∃ s, render ctx earlier = .ok s) ∧
        render ctx template = .error fault) := by
  refine ⟨?_, fun w => renderValue_iff_renders v, fun fault => ?_⟩
  · simp only [renderValue_ok_iff v, exists_and_left, exists_eq', and_true, Resolves,
      Option.isSome_iff_exists]
  · rw [← Except.fault?_eq_some, fault?_renderValue, firstFault?, List.findSome?_eq_some_iff]
    simp only [Except.fault?_eq_some, Except.fault?_eq_none]
    constructor
    · rintro ⟨before, template, after, same, failed, passed⟩
      exact ⟨before, template, after, same, passed, failed⟩
    · rintro ⟨before, template, after, same, passed, failed⟩
      exact ⟨before, template, after, same, failed, passed⟩

/-- Of two fields whose names are rendered alike the later one is kept, and the field takes its place in
the order of the rendered names. -/
example :
    (renderValue ⟨.object [("a", .text "c")], none⟩
      (.object [("b", .list [.null, .text "\x7b\x7bparams.a\x7d\x7d!"]), ("d", .bool true),
        ("\x7b\x7b params.a \x7d\x7d", .text ""), ("\x7b\x7bparams.a\x7d\x7d", .object [])])).toOption =
      some (.object [("b", .list [.null, .text "c!"]), ("c", .object []), ("d", .bool true)]) := by
  decide +kernel

end Pager.Template

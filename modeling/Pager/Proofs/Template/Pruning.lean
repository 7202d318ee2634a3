import Pager.Proofs.Binding

namespace Pager

namespace Json

/-- A step from a value to one right inside it. -/
inductive Step
  | item (i : Nat)
  | field (name : String)
  deriving DecidableEq, Repr

/-- What stands in a value at the end of a path. -/
inductive At : Json → List Step → Json → Prop
  | here (v : Json) : At v [] v
  | item {items : List Json} {i : Nat} {v w : Json} {path : List Step} :
      items[i]? = some v → At v path w → At (.list items) (.item i :: path) w
  | field {fields : List (String × Json)} {name : String} {v w : Json} {path : List Step} :
      (name, v) ∈ fields → At v path w → At (.object fields) (.field name :: path) w

/-- No object in the value, at whatever depth, has a field that holds the empty text. -/
def NoEmptyField (v : Json) : Prop :=
  ∀ path fields, v.At path (.object fields) → ∀ field ∈ fields, field.2 ≠ .text ""

/-- At the end of the path there is an object field, and it holds the empty text. -/
def EmptyField (path : List Step) (v : Json) : Prop :=
  v = .text "" ∧ ∃ front name, path = front ++ [.field name]

/-- The same scalar; or lists of one length; or objects, the second with some of the names of the first,
in their order. -/
inductive Alike : Json → Json → Prop
  | null : Alike .null .null
  | bool (b : Bool) : Alike (.bool b) (.bool b)
  | number (n : Number) : Alike (.number n) (.number n)
  | text (s : String) : Alike (.text s) (.text s)
  | list {items others : List Json} : others.length = items.length → Alike (.list items) (.list others)
  | object {fields others : List (String × Json)} :
      (Fields.names others).Sublist (Fields.names fields) → Alike (.object fields) (.object others)

variable {v w u : Json} {path : List Step} {name : String}

theorem at_nil_iff : v.At [] w ↔ v = w := by
  constructor
  · rintro ⟨⟩
    rfl
  · rintro rfl
    exact .here v

theorem at_item_iff {items : List Json} {i : Nat} :
    (Json.list items).At (.item i :: path) w ↔ ∃ v, items[i]? = some v ∧ v.At path w := by
  constructor
  · rintro (_ | ⟨there, inside⟩)
    exact ⟨_, there, inside⟩
  · rintro ⟨v, there, inside⟩
    exact .item there inside

theorem at_field_iff {fields : List (String × Json)} :
    (Json.object fields).At (.field name :: path) w ↔ ∃ v, (name, v) ∈ fields ∧ v.At path w := by
  constructor
  · rintro (_ | _ | ⟨there, inside⟩)
    exact ⟨_, there, inside⟩
  · rintro ⟨v, there, inside⟩
    exact .field there inside

theorem At.append (outer : v.At path w) {more : List Step} (inner : w.At more u) :
    v.At (path ++ more) u := by
  induction outer with
  | here => exact inner
  | item there _ ih => exact .item there (ih inner)
  | field there _ ih => exact .field there (ih inner)

theorem At.field_of_mem {fields : List (String × Json)} (outer : v.At path (.object fields))
    (member : (name, w) ∈ fields) : v.At (path ++ [.field name]) w :=
  outer.append (.field member (.here w))

/-- What has no empty field has none in its parts. -/
theorem NoEmptyField.of_at (full : v.NoEmptyField) (inside : v.At path w) : w.NoEmptyField :=
  fun _ fields deeper => full _ fields (inside.append deeper)

theorem not_emptyField_nil : ¬ EmptyField [] v := by
  rintro ⟨_, front, name, same⟩
  simp at same

theorem emptyField_item_iff {i : Nat} : EmptyField (.item i :: path) v ↔ EmptyField path v := by
  refine and_congr_right fun _ => ⟨?_, ?_⟩
  · rintro ⟨front, name, same⟩
    cases front with
    | nil => cases same
    | cons first front => exact ⟨front, name, (List.cons.inj same).2⟩
  · rintro ⟨front, name, rfl⟩
    exact ⟨.item i :: front, name, rfl⟩

theorem emptyField_field_iff :
    EmptyField (.field name :: path) v ↔ path = [] ∧ v = .text "" ∨ EmptyField path v := by
  constructor
  · rintro ⟨empty, front, last, same⟩
    cases front with
    | nil => exact .inl ⟨(List.cons.inj same).2, empty⟩
    | cons first front => exact .inr ⟨empty, front, last, (List.cons.inj same).2⟩
  · rintro (⟨rfl, empty⟩ | ⟨empty, front, last, rfl⟩)
    · exact ⟨empty, [], name, rfl⟩
    · exact ⟨empty, .field name :: front, last, rfl⟩

/-- Nothing but itself stands in a text. -/
theorem At.of_text {s : String} (inside : (Json.text s).At path w) : path = [] ∧ w = .text s := by
  cases inside
  exact ⟨rfl, rfl⟩

theorem At.empty_iff (inside : v.At path w) : v = .text "" ↔ path = [] ∧ w = .text "" := by
  constructor
  · rintro rfl
    exact inside.of_text
  · rintro ⟨rfl, rfl⟩
    exact at_nil_iff.mp inside

end Json

namespace Template

open Json

variable {v w u : Json} {path : List Step} {name : String}

theorem pruneItems_eq (items : List Json) : pruneItems items = items.map pruneEmpty := by
  induction items with
  | nil => rfl
  | cons v vs ih => rw [pruneItems, ih, List.map_cons]

theorem pruneFields_eq (fields : List (String × Json)) :
    pruneFields fields =
      (fields.filter fun field => field.2 ≠ .text "").map fun field => (field.1, pruneEmpty field.2) := by
  induction fields with
  | nil => rfl
  | cons field rest ih =>
    rw [pruneFields, ih]
    split
    · next empty => rw [List.filter_cons_of_neg (by simp [empty])]
    · next filled => rw [List.filter_cons_of_pos (by simp [filled]), List.map_cons]

theorem mem_pruneFields_iff {fields : List (String × Json)} :
    (name, w) ∈ pruneFields fields ↔
      ∃ v, (name, v) ∈ fields ∧ v ≠ .text "" ∧ pruneEmpty v = w := by
  simp only [pruneFields_eq, List.mem_map, List.mem_filter, decide_eq_true_eq, Prod.mk.injEq]
  constructor
  · rintro ⟨⟨_, v⟩, ⟨there, filled⟩, rfl, same⟩
    exact ⟨v, there, filled, same⟩
  · rintro ⟨v, there, filled, same⟩
    exact ⟨(name, v), ⟨there, filled⟩, rfl, same⟩

/-- What is left of a value is of its kind. -/
theorem alike_pruneEmpty (v : Json) : v.Alike (pruneEmpty v) := by
  cases v with
  | null | bool b | number n | text s =>
    simp only [pruneEmpty]
    constructor
  | list items =>
    rw [pruneEmpty, pruneItems_eq]
    exact .list (List.length_map _)
  | object fields =>
    rw [pruneEmpty, pruneFields_eq]
    refine .object ?_
    rw [Fields.names, List.map_map]
    exact List.filter_sublist.map Prod.fst

theorem eq_of_pruneEmpty {s : String} (same : pruneEmpty v = .text s) : v = .text s := by
  have alike := alike_pruneEmpty v
  rw [same] at alike
  cases alike
  rfl

/-- What stands in a value is left, without its own empty fields, unless it is an empty field; by the
path to it. -/
theorem at_pruneEmpty_iff :
    (pruneEmpty v).At path w ↔ ∃ u, v.At path u ∧ ¬ EmptyField path u ∧ pruneEmpty u = w := by
  induction path generalizing v with
  | nil => simp [at_nil_iff, not_emptyField_nil]
  | cons step path ih =>
    cases step with
    | item i =>
      cases v with
      | list items =>
        rw [pruneEmpty, pruneItems_eq]
        simp only [at_item_iff, List.getElem?_map, Option.map_eq_some_iff, emptyField_item_iff]
        constructor
        · rintro ⟨_, ⟨v, there, rfl⟩, inside⟩
          obtain ⟨u, deeper, kept, same⟩ := ih.mp inside
          exact ⟨u, ⟨v, there, deeper⟩, kept, same⟩
        · rintro ⟨u, ⟨v, there, deeper⟩, kept, same⟩
          exact ⟨_, ⟨v, there, rfl⟩, ih.mpr ⟨u, deeper, kept, same⟩⟩
      | null | bool b | number n | text s | object fields =>
        exact iff_of_false (by rintro ⟨⟩) (by rintro ⟨_, ⟨⟩, _⟩)
    | field name =>
      cases v with
      | object fields =>
        rw [pruneEmpty]
        simp only [at_field_iff, mem_pruneFields_iff, emptyField_field_iff, not_or]
        constructor
        · rintro ⟨_, ⟨v, there, filled, rfl⟩, inside⟩
          obtain ⟨u, deeper, kept, same⟩ := ih.mp inside
          exact ⟨u, ⟨v, there, deeper⟩, ⟨mt deeper.empty_iff.mpr filled, kept⟩, same⟩
        · rintro ⟨u, ⟨v, there, deeper⟩, ⟨filled, kept⟩, same⟩
          exact ⟨_, ⟨v, there, mt deeper.empty_iff.mp filled, rfl⟩, ih.mpr ⟨u, deeper, kept, same⟩⟩
      | null | bool b | number n | text s | list items =>
        exact iff_of_false (by rintro ⟨⟩) (by rintro ⟨_, ⟨⟩, _⟩)

theorem noEmptyField_pruneEmpty (v : Json) : (pruneEmpty v).NoEmptyField := by
  rintro path fields inside ⟨name, _⟩ member rfl
  obtain ⟨u, _, kept, same⟩ := at_pruneEmpty_iff.mp (inside.field_of_mem member)
  exact kept ⟨eq_of_pruneEmpty same, path, name, rfl⟩

mutual

/-- Nothing is left out where no field is empty. -/
theorem pruneEmpty_of_noEmptyField (v : Json) (full : v.NoEmptyField) : pruneEmpty v = v := by
  cases v with
  | null | bool b | number n | text s => simp only [pruneEmpty]
  | list items =>
    rw [pruneEmpty, pruneItems_of_noEmptyField items fun i v there => full.of_at (.item there (.here v))]
  | object fields =>
    rw [pruneEmpty, pruneFields_of_noEmptyField fields (full [] fields (.here _))
      fun name v there => full.of_at (.field there (.here v))]

theorem pruneItems_of_noEmptyField (vs : List Json)
    (full : ∀ (i : Nat) v, vs[i]? = some v → v.NoEmptyField) : pruneItems vs = vs := by
  cases vs with
  | nil => rfl
  | cons v vs =>
    rw [pruneItems, pruneEmpty_of_noEmptyField v (full 0 v rfl),
      pruneItems_of_noEmptyField vs fun i => full (i + 1)]

theorem pruneFields_of_noEmptyField (fields : List (String × Json))
    (filled : ∀ field ∈ fields, field.2 ≠ .text "")
    (full : ∀ name v, (name, v) ∈ fields → v.NoEmptyField) : pruneFields fields = fields := by
  cases fields with
  | nil => rfl
  | cons field rest =>
    obtain ⟨first, others⟩ := List.forall_mem_cons.mp filled
    rw [pruneFields, if_neg first, pruneEmpty_of_noEmptyField field.2 (full _ _ List.mem_cons_self),
      pruneFields_of_noEmptyField rest others fun name v member =>
        full name v (List.mem_cons_of_mem _ member)]

end

end Template

/-- The body of a bound endpoint has been pruned. -/
theorem Definition.noEmptyField_bind {d : Definition} {env : Template.Environment} {name : String}
    {supplied : List (String × String)} {b : Binding} (bound : d.bind env name supplied = .ok b)
    {body : Json} (there : b.endpoint.body = some body) : body.NoEmptyField := by
  obtain ⟨op, _, operation⟩ := bind_ok bound
  obtain ⟨parameters, url, query, headers, rendered, _, _, _, _, made, rfl⟩ := bindOperation_ok operation
  have same : rendered = some body := there
  subst same
  cases template : op.body with
  | none =>
    rw [template] at made
    cases made
  | some v =>
    rw [template, renderBody, Except.map_eq_ok] at made
    obtain ⟨w, _, same⟩ := made
    cases same
    exact Template.noEmptyField_pruneEmpty w

/-- Leaving out the empty fields of a value leaves no object, at whatever depth, with a field that holds
the empty text. It leaves out nothing else: what stands at a path is left there, without its own empty
fields, exactly if it is no such field itself, a scalar as it is, a list with its length, and an object or
list also when there is nothing left in it. Doing so again changes nothing. So no body of an endpoint that
an operation is bound to has an empty field at any depth. -/
theorem Template.pruneEmpty_exact :
    (∀ v : Json, (pruneEmpty v).NoEmptyField ∧
      (∀ path w, (pruneEmpty v).At path w ↔
        ∃ u, v.At path u ∧ ¬ Json.EmptyField path u ∧ pruneEmpty u = w) ∧
      (∀ path u, v.At path u → u.Alike (pruneEmpty u)) ∧
      pruneEmpty (pruneEmpty v) = pruneEmpty v) ∧
    ∀ (d : Definition) (env : Environment) (name : String) (supplied : List (String × String))
      (b : Binding), d.bind env name supplied = .ok b →
      ∀ body ∈ b.endpoint.body, body.NoEmptyField := by
  refine ⟨fun v => ⟨noEmptyField_pruneEmpty v, fun path w => at_pruneEmpty_iff,
    fun path u _ => alike_pruneEmpty u, ?_⟩, fun d env name supplied b bound body there => ?_⟩
  · exact pruneEmpty_of_noEmptyField _ (noEmptyField_pruneEmpty v)
  · exact Definition.noEmptyField_bind bound there

namespace TaggedSearch

/-- An operation whose body has a field that may be left empty, in two places. -/
def operation : OperationDefinition where
  name := "search"
  description := none
  method := .post
  path := "/search"
  parameters := [⟨"tag", false, some "", none⟩]
  params := []
  headers := []
  body := some (.object [("fixed", .list [.text "", .number (.whole 3)]),
    ("options", .object [("tag", .text "\x7b\x7b params.tag \x7d\x7d")]),
    ("tag", .text "\x7b\x7b params.tag \x7d\x7d")])
  cursor := ⟨"c", .body, none⟩
  pageSize := none
  itemsPath := none

def definition : Definition :=
  ⟨"s", "http://h", .standard, [], [operation]⟩

/-- The tag is left out twice, and the options stay without it. -/
theorem bind_pruned : ∃ b body, definition.bind (fun _ => none) "search" [] = .ok b ∧
    b.endpoint.body = some body ∧
    body = .object [("fixed", .list [.text "", .number (.whole 3)]), ("options", .object [])] ∧
    body.NoEmptyField := by
  have made : (definition.bind (fun _ => none) "search" []).toOption.map (fun b => b.endpoint.body) =
      some (some (.object [("fixed", .list [.text "", .number (.whole 3)]),
        ("options", .object [])])) := by
    decide +kernel
  obtain ⟨b, bound, same⟩ := Option.map_eq_some_iff.mp made
  have bound := Except.toOption_eq_some.mp bound
  exact ⟨b, _, bound, same, rfl, Template.pruneEmpty_exact.2 _ _ _ _ b bound _ same⟩

end TaggedSearch

end Pager

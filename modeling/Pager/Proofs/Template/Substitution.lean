import Pager.Definition.Templates
import Pager.Proofs.Binding
import Pager.Template.Render

namespace Pager.Template

variable {ctx ctx' : Context}

/-- Whether every variable of a template has a value. -/
def Resolves (ctx : Context) (template : String) : Prop :=
  ∀ name ∈ variableNames template, (ctx.get name).isSome = true

/-- The names among pieces that have no value, in their order. -/
def missing (ctx : Context) (pieces : List Piece) : List String :=
  (pieces.filterMap Piece.name?).filter fun name => (ctx.get name).isNone

def unresolved (ctx : Context) (template : String) : List String :=
  missing ctx (scan template.toList)

theorem unresolved_eq_nil_iff {template : String} :
    unresolved ctx template = [] ↔ Resolves ctx template := by
  simp [unresolved, missing, Resolves, variableNames, Option.isSome_iff_ne_none]

instance (ctx : Context) (template : String) : Decidable (Resolves ctx template) :=
  decidable_of_iff _ unresolved_eq_nil_iff

/-- What a piece stands for: itself, or the text of its variable's value. -/
def Piece.text (ctx : Context) : Piece → List Char
  | .char c => [c]
  | .variable _ name => ((ctx.get (String.ofList name)).elim "" valueText).toList

/-- The template with the text of its value in the place of each variable. -/
def substitute (ctx : Context) (template : String) : String :=
  String.ofList ((scan template.toList).flatMap (Piece.text ctx))

theorem renderPieces_eq (ctx : Context) (pieces : List Piece) :
    renderPieces ctx pieces =
      if missing ctx pieces = [] then .ok (pieces.flatMap (Piece.text ctx))
      else .error (missing ctx pieces) := by
  induction pieces with
  | nil => rfl
  | cons piece rest ih =>
    cases piece with
    | char c =>
      have same : missing ctx (.char c :: rest) = missing ctx rest := rfl
      rw [renderPieces, ih, same]
      split <;> rfl
    | «variable» source name =>
      have first : missing ctx (.variable source name :: rest) =
          if (ctx.get (String.ofList name)).isNone then String.ofList name :: missing ctx rest
          else missing ctx rest := List.filter_cons
      rw [renderPieces, ih, first, List.flatMap_cons, Piece.text]
      cases ctx.get (String.ofList name) with
      | some value =>
        by_cases complete : missing ctx rest = []
        · simp [complete]
        · simp [complete]
      | none =>
        by_cases complete : missing ctx rest = []
        · simp [complete]
        · simp [complete]

/-- Rendering is substitution, if every variable has a value. -/
theorem render_eq (ctx : Context) (template : String) :
    render ctx template =
      if Resolves ctx template then .ok (substitute ctx template)
      else .error (.undefinedVariables (unresolved ctx template)) := by
  rw [render, renderPieces_eq]
  by_cases resolves : Resolves ctx template
  · have complete : missing ctx (scan template.toList) = [] := unresolved_eq_nil_iff.mpr resolves
    rw [if_pos complete, if_pos resolves, substitute]
  · have lacking : missing ctx (scan template.toList) ≠ [] := mt unresolved_eq_nil_iff.mp resolves
    rw [if_neg lacking, if_neg resolves, unresolved]

theorem render_ok_iff {template s : String} :
    render ctx template = .ok s ↔ Resolves ctx template ∧ substitute ctx template = s := by
  rw [render_eq]
  split <;> simp_all

theorem mapM_render_ok_iff {templates texts : List String} :
    templates.mapM (render ctx) = .ok texts ↔
      (∀ template ∈ templates, Resolves ctx template) ∧ templates.map (substitute ctx) = texts := by
  induction templates generalizing texts with
  | nil =>
    rw [List.mapM_nil]
    exact ⟨fun same => ⟨nofun, Except.ok.inj same⟩, fun both => congrArg Except.ok both.2⟩
  | cons template rest ih =>
    rw [List.mapM_cons, List.forall_mem_cons, List.map_cons]
    simp only [Except.bind_eq_ok, render_ok_iff, ih]
    constructor
    · rintro ⟨_, ⟨first, rfl⟩, _, ⟨others, rfl⟩, same⟩
      exact ⟨⟨first, others⟩, Except.ok.inj same⟩
    · rintro ⟨⟨first, others⟩, same⟩
      exact ⟨_, ⟨first, rfl⟩, _, ⟨others, rfl⟩, congrArg Except.ok same⟩

mutual

/-- The value with every text and field name substituted. -/
def substituteValue (ctx : Context) : Json → Json
  | .text s => .text (substitute ctx s)
  | .list items => .list (substituteItems ctx items)
  | .object fields => Json.ofPairs (substituteFields ctx fields)
  | v => v

def substituteItems (ctx : Context) : List Json → List Json
  | [] => []
  | v :: vs => substituteValue ctx v :: substituteItems ctx vs

def substituteFields (ctx : Context) : List (String × Json) → List (String × Json)
  | [] => []
  | (name, v) :: rest => (substitute ctx name, substituteValue ctx v) :: substituteFields ctx rest

end

theorem renderItems_cons_ok_iff {v : Json} {vs ws : List Json} :
    renderItems ctx (v :: vs) = .ok ws ↔
      ∃ w rest, renderValue ctx v = .ok w ∧ renderItems ctx vs = .ok rest ∧ w :: rest = ws := by
  rw [renderItems]
  cases renderValue ctx v <;> simp [Except.map_eq_ok]

theorem renderFields_cons_ok_iff {name : String} {v : Json} {rest ws : List (String × Json)} :
    renderFields ctx ((name, v) :: rest) = .ok ws ↔
      ∃ name' w others, render ctx name = .ok name' ∧ renderValue ctx v = .ok w ∧
        renderFields ctx rest = .ok others ∧ (name', w) :: others = ws := by
  rw [renderFields]
  cases render ctx name with
  | error fault => simp
  | ok name' => cases renderValue ctx v <;> simp [Except.map_eq_ok]

mutual

/-- Rendering a value is substitution, if every variable in its texts has a value. -/
theorem renderValue_ok_iff (v : Json) {w : Json} :
    renderValue ctx v = .ok w ↔
      (∀ template ∈ v.texts, Resolves ctx template) ∧ substituteValue ctx v = w := by
  cases v with
  | text s =>
    simp [renderValue, Json.texts, substituteValue, Except.map_eq_ok, render_ok_iff, and_assoc]
  | list items =>
    simp [renderValue, Json.texts, substituteValue, Except.map_eq_ok, renderItems_ok_iff items,
      and_assoc]
  | object fields =>
    simp [renderValue, Json.texts, substituteValue, Except.map_eq_ok, renderFields_ok_iff fields,
      and_assoc]
  | null | bool b | number n => simp [renderValue, Json.texts, substituteValue]

theorem renderItems_ok_iff (vs : List Json) {ws : List Json} :
    renderItems ctx vs = .ok ws ↔
      (∀ template ∈ Json.textsOfItems vs, Resolves ctx template) ∧ substituteItems ctx vs = ws := by
  cases vs with
  | nil => simp [renderItems, Json.textsOfItems, substituteItems]
  | cons v vs =>
    rw [renderItems_cons_ok_iff, Json.textsOfItems, List.forall_mem_append, substituteItems]
    simp only [renderValue_ok_iff v, renderItems_ok_iff vs]
    constructor
    · rintro ⟨_, _, ⟨first, rfl⟩, ⟨others, rfl⟩, rfl⟩
      exact ⟨⟨first, others⟩, rfl⟩
    · rintro ⟨⟨first, others⟩, rfl⟩
      exact ⟨_, _, ⟨first, rfl⟩, ⟨others, rfl⟩, rfl⟩

theorem renderFields_ok_iff (fields : List (String × Json)) {ws : List (String × Json)} :
    renderFields ctx fields = .ok ws ↔
      (∀ template ∈ Json.textsOfFields fields, Resolves ctx template) ∧
        substituteFields ctx fields = ws := by
  cases fields with
  | nil => simp [renderFields, Json.textsOfFields, substituteFields]
  | cons field rest =>
    rw [renderFields_cons_ok_iff, Json.textsOfFields, List.cons_append, List.forall_mem_cons,
      List.forall_mem_append, substituteFields]
    simp only [render_ok_iff, renderValue_ok_iff field.2, renderFields_ok_iff rest]
    constructor
    · rintro ⟨_, _, _, ⟨name, rfl⟩, ⟨first, rfl⟩, ⟨others, rfl⟩, rfl⟩
      exact ⟨⟨name, first, others⟩, rfl⟩
    · rintro ⟨⟨name, first, others⟩, rfl⟩
      exact ⟨_, _, _, ⟨name, rfl⟩, ⟨first, rfl⟩, ⟨others, rfl⟩, rfl⟩

end

/-- Whether two contexts have the same values for the variables of a template. -/
def Agree (ctx ctx' : Context) (template : String) : Prop :=
  ∀ name ∈ variableNames template, ctx.get name = ctx'.get name

theorem renderPieces_congr {pieces : List Piece}
    (agree : ∀ name ∈ pieces.filterMap Piece.name?, ctx.get name = ctx'.get name) :
    renderPieces ctx pieces = renderPieces ctx' pieces := by
  induction pieces with
  | nil => rfl
  | cons piece rest ih =>
    cases piece with
    | char c => rw [renderPieces, renderPieces, ih agree]
    | «variable» source name =>
      obtain ⟨first, others⟩ := List.forall_mem_cons.mp agree
      rw [renderPieces, renderPieces, ih others, first]

theorem render_congr {template : String} (agree : Agree ctx ctx' template) :
    render ctx template = render ctx' template := by
  rw [render, render, renderPieces_congr agree]

theorem mapM_render_congr {templates : List String}
    (agree : ∀ template ∈ templates, Agree ctx ctx' template) :
    templates.mapM (render ctx) = templates.mapM (render ctx') := by
  induction templates with
  | nil => rfl
  | cons template rest ih =>
    obtain ⟨first, others⟩ := List.forall_mem_cons.mp agree
    rw [List.mapM_cons, List.mapM_cons, render_congr first, ih others]

mutual

theorem renderValue_congr (v : Json) (agree : ∀ template ∈ v.texts, Agree ctx ctx' template) :
    renderValue ctx v = renderValue ctx' v := by
  cases v with
  | text s =>
    rw [renderValue, renderValue, render_congr (agree s (by simp [Json.texts]))]
  | list items =>
    rw [renderValue, renderValue, renderItems_congr items (by simpa [Json.texts] using agree)]
  | object fields =>
    rw [renderValue, renderValue, renderFields_congr fields (by simpa [Json.texts] using agree)]
  | null | bool b | number n => simp only [renderValue]

theorem renderItems_congr (vs : List Json)
    (agree : ∀ template ∈ Json.textsOfItems vs, Agree ctx ctx' template) :
    renderItems ctx vs = renderItems ctx' vs := by
  cases vs with
  | nil => rfl
  | cons v vs =>
    obtain ⟨first, others⟩ := List.forall_mem_append.mp (by rwa [Json.textsOfItems] at agree)
    rw [renderItems, renderItems, renderValue_congr v first, renderItems_congr vs others]

theorem renderFields_congr (fields : List (String × Json))
    (agree : ∀ template ∈ Json.textsOfFields fields, Agree ctx ctx' template) :
    renderFields ctx fields = renderFields ctx' fields := by
  cases fields with
  | nil => rfl
  | cons field rest =>
    rw [Json.textsOfFields, List.cons_append, List.forall_mem_cons, List.forall_mem_append] at agree
    obtain ⟨name, first, others⟩ := agree
    rw [renderFields, renderFields, render_congr name, renderValue_congr field.2 first,
      renderFields_congr rest others]

end

end Pager.Template

import Pager.Proofs.Template.Scan
import Pager.Proofs.Template.Substitution

namespace Pager.Definition

open Template

variable {ctx ctx' : Context}

/-- The templates an operation is bound with. -/
def templatesOf (d : Definition) (op : OperationDefinition) : List String :=
  d.headers.map Prod.snd ++ op.templates

theorem flatMap_pathPieces (path : String) :
    (pathPieces path).flatMap variableNames = variableNames path := by
  have each : ∀ piece : List Char, variableNames (String.ofList piece) = namesIn piece := by
    intro piece
    rw [variableNames_eq, String.toList_ofList]
  rw [pathPieces, List.flatMap_map, variableNames_eq]
  simp only [each]
  rw [flatMap_namesIn (Text.pieces_ne_nil '/' _), Text.join_pieces, namesIn_dropWhile_slash]

theorem forall_pathPieces {path : String} {P : String → Prop} :
    (∀ piece ∈ pathPieces path, ∀ name ∈ variableNames piece, P name) ↔
      ∀ name ∈ variableNames path, P name := by
  rw [← flatMap_pathPieces path]
  simp only [List.mem_flatMap]
  exact ⟨fun each name ⟨piece, member, inside⟩ => each piece member name inside,
    fun all piece member name inside => all name ⟨piece, member, inside⟩⟩

/-- The address of a path with the values in their places. -/
def addressOf? (base path : String) (ctx : Context) : Option String :=
  if Url.isWebAddress path then some (substitute ctx path)
  else match Url.ofText base with
    | .ok url => (url.extend? ((pathPieces path).map (substitute ctx))).map Url.text
    | .error _ => none

theorem address_ok_iff {base path text : String} :
    address base path ctx = .ok text ↔
      Resolves ctx path ∧ addressOf? base path ctx = some text := by
  unfold address addressOf?
  by_cases web : Url.isWebAddress path = true
  · rw [if_pos web, if_pos web, render_ok_iff, Option.some.injEq]
  · rw [if_neg web, if_neg web]
    cases Url.ofText base with
    | error cause => simp
    | ok url =>
      cases path' : url.path with
      | rootless own => simp [Url.extend?, path']
      | segments own =>
        have whole : (∀ piece ∈ pathPieces path, Resolves ctx piece) ↔ Resolves ctx path :=
          forall_pathPieces
        simp only [Except.bind_eq_ok, mapM_render_ok_iff, whole, Url.extend?, path', Option.map_some,
          Option.getD_some, Option.some.injEq, and_assoc, exists_and_left, exists_eq_left',
          Except.ok.injEq]

/-- The entries with the values in their places, without those that are then empty. -/
def filled (ctx : Context) (entries : List (String × String)) : List (String × String) :=
  (entries.map fun entry => (entry.1, substitute ctx entry.2)).filter fun entry => entry.2 ≠ ""

theorem renderEntries_ok_iff {entries texts : List (String × String)} :
    renderEntries ctx entries = .ok texts ↔
      (∀ template ∈ entries.map Prod.snd, Resolves ctx template) ∧ filled ctx entries = texts := by
  induction entries generalizing texts with
  | nil => simp [renderEntries, filled]
  | cons entry rest ih =>
    have kept : filled ctx (entry :: rest) =
        if substitute ctx entry.2 = "" then filled ctx rest
        else (entry.1, substitute ctx entry.2) :: filled ctx rest := by
      simp only [filled, List.map_cons, List.filter_cons]
      split <;> simp_all
    rw [renderEntries, List.map_cons, List.forall_mem_cons, kept]
    simp only [Except.bind_eq_ok, render_ok_iff, ih]
    constructor
    · rintro ⟨_, ⟨first, rfl⟩, _, ⟨others, rfl⟩, same⟩
      refine ⟨⟨first, others⟩, ?_⟩
      split at same <;> simp_all
    · rintro ⟨⟨first, others⟩, same⟩
      refine ⟨_, ⟨first, rfl⟩, _, ⟨others, rfl⟩, ?_⟩
      split at same <;> simp_all

theorem renderTexts_ok_iff {entries : List (String × String)} {texts : Fields String} :
    renderTexts ctx entries = .ok texts ↔
      (∀ template ∈ entries.map Prod.snd, Resolves ctx template) ∧
        Fields.ofPairs (filled ctx entries) = texts := by
  simp only [renderTexts, Except.map_eq_ok, renderEntries_ok_iff, and_assoc, exists_and_left,
    exists_eq_left']

theorem renderBody_ok_iff {template body : Option Json} :
    renderBody ctx template = .ok body ↔
      (∀ text ∈ (template.map Json.texts).getD [], Resolves ctx text) ∧
        (template.map fun v => pruneEmpty (substituteValue ctx v)) = body := by
  cases template with
  | none => simp [renderBody]
  | some v =>
    simp only [renderBody, Except.map_eq_ok, renderValue_ok_iff, and_assoc, exists_and_left,
      exists_eq_left', Option.map_some, Option.getD_some]

variable {d : Definition} {op : OperationDefinition} {env : Environment} {parameters : Parameters}
variable {supplied : List (String × String)} {b : Binding} {template url : String}

/-- The headers an operation is bound with: its own, behind those for every operation that refer to
its parameters only. -/
def headersFor (d : Definition) (op : OperationDefinition) (parameters : Parameters) :
    List (String × String) :=
  (d.headers.filter fun (_, template) => refersToDeclared template parameters) ++ op.headers

/-- The templates that are rendered. -/
def templatesFor (d : Definition) (op : OperationDefinition) (parameters : Parameters) :
    List String :=
  op.path :: op.params.map Prod.snd ++ (d.headersFor op parameters).map Prod.snd ++
    (op.body.map Json.texts).getD []

/-- The binding of an address, with the values in the places of all other variables. -/
def substituted (d : Definition) (op : OperationDefinition) (env : Environment)
    (parameters : Parameters) (url : String) : Binding :=
  let ctx : Context := ⟨parameters.toJson, some env⟩
  { endpoint := {
      name := op.name
      url
      method := op.method
      query := Fields.ofPairs (filled ctx op.params)
      headers := Fields.ofPairs (filled ctx (d.headersFor op parameters))
      body := op.body.map fun v => pruneEmpty (substituteValue ctx v)
      cursor := ⟨op.cursor.param, op.cursor.location, op.cursor.responsePath⟩
      pageSize := op.pageSize
      itemsPath := op.itemsPath }
    parameters
    transport := d.http.settings }

theorem templatesFor_subset (member : template ∈ d.templatesFor op parameters) :
    template ∈ d.templatesOf op := by
  simp only [templatesFor, headersFor, templatesOf, OperationDefinition.templates, List.cons_append,
    List.map_append, List.mem_append, List.mem_cons] at member ⊢
  rcases member with path | (query | (shared | own)) | body
  · exact .inr (.inl path)
  · exact .inr (.inr (.inl (.inl query)))
  · obtain ⟨header, kept, rfl⟩ := List.mem_map.mp shared
    exact .inl (List.mem_map_of_mem ((List.mem_filter.mp kept).1))
  · exact .inr (.inr (.inl (.inr own)))
  · exact .inr (.inr (.inr body))

theorem mem_templatesFor {header : String × String} (used : header ∈ d.headersFor op parameters) :
    header.2 ∈ d.templatesFor op parameters :=
  List.mem_append_left _ (List.mem_append_right _ (List.mem_map_of_mem used))

/-- An operation is bound exactly if its parameters are, its path has an address and every variable
that is asked for has a value; the values are then put in their places, once. -/
theorem bindOperation_ok_iff :
    d.bindOperation op env supplied = .ok b ↔
      ∃ parameters url, bindParameters op supplied = .ok parameters ∧
        addressOf? d.baseUrl op.path ⟨parameters.toJson, some env⟩ = some url ∧
        (∀ template ∈ d.templatesFor op parameters,
          Resolves ⟨parameters.toJson, some env⟩ template) ∧
        d.substituted op env parameters url = b := by
  constructor
  · intro made
    obtain ⟨parameters, url, query, headers, body, bound, addressed, queried, headed, rendered, rfl⟩ :=
      bindOperation_ok made
    obtain ⟨path, addressed⟩ := address_ok_iff.mp addressed
    obtain ⟨queries, rfl⟩ := renderTexts_ok_iff.mp queried
    obtain ⟨heads, rfl⟩ := renderTexts_ok_iff.mp headed
    obtain ⟨texts, rfl⟩ := renderBody_ok_iff.mp rendered
    refine ⟨parameters, url, bound, addressed, ?_, rfl⟩
    simp only [templatesFor, List.forall_mem_append, List.forall_mem_cons, List.cons_append]
    exact ⟨path, ⟨queries, heads⟩, texts⟩
  · rintro ⟨parameters, url, bound, addressed, resolves, rfl⟩
    simp only [templatesFor, List.forall_mem_append, List.forall_mem_cons, List.cons_append]
      at resolves
    obtain ⟨path, ⟨queries, heads⟩, texts⟩ := resolves
    have addressed := address_ok_iff.mpr ⟨path, addressed⟩
    have queried := renderTexts_ok_iff.mpr ⟨queries, rfl⟩
    have headed := renderTexts_ok_iff.mpr ⟨heads, rfl⟩
    have rendered := renderBody_ok_iff.mpr ⟨texts, rfl⟩
    rw [headersFor] at headed
    rw [bindOperation, bound, Except.ok_bind]
    dsimp only
    rw [addressed, Except.ok_bind, queried, Except.ok_bind, headed, Except.ok_bind, rendered,
      Except.ok_bind]
    rfl

end Pager.Definition

import Pager.Definition.Defect
import Pager.Proofs.Binding
import Pager.Proofs.Url.Basic

namespace Pager

namespace Definition

theorem pathPieces_ne_nil (path : String) : pathPieces path ≠ [] :=
  fun empty => Text.pieces_ne_nil _ _ (List.map_eq_nil_iff.mp empty)

theorem mapM_length {ε α β : Type} {f : α → Except ε β} {xs : List α} {ys : List β}
    (made : xs.mapM f = .ok ys) : ys.length = xs.length := by
  induction xs generalizing ys with
  | nil =>
    cases made
    rfl
  | cons x xs ih =>
    rw [List.mapM_cons] at made
    simp only [Except.bind_eq_ok] at made
    obtain ⟨y, _, rest, others, last⟩ := made
    cases last
    rw [List.length_cons, List.length_cons, ih others]

/-- A path that is no address of its own is put behind the base. -/
theorem address_ok {base path url : String} {ctx : Template.Context}
    (relative : Url.isWebAddress path = false) (made : address base path ctx = .ok url) :
    ∃ u own pieces, Url.ofText base = .ok u ∧ u.path = .segments own ∧
      (pathPieces path).mapM (Template.render ctx) = .ok pieces ∧ pieces ≠ [] ∧
      url = ((u.extend? pieces).getD u).text := by
  unfold address at made
  rw [if_neg (by simp [relative])] at made
  split at made
  · cases made
  · rename_i u read
    split at made
    · cases made
    · rename_i own path'
      simp only [Except.bind_eq_ok] at made
      obtain ⟨pieces, rendered, same⟩ := made
      refine ⟨u, own, pieces, read, path', rendered, ?_, (Except.ok.inj same).symm⟩
      rintro rfl
      exact pathPieces_ne_nil path (List.eq_nil_of_length_eq_zero (mapM_length rendered).symm)

variable {d : Definition} {op : OperationDefinition} {env : Template.Environment} {name : String}
variable {supplied : List (String × String)} {b : Binding}

/-- The address of an endpoint bound to a path behind the address of a web service: scheme, host,
query and all else are those of the base, and the text of the path is cut into its segments and
nothing else by the slashes in it. There are never more segments than those of the base, less an
empty one at the end, and one for each piece; they are those in their order, each new one saying its
piece, exactly if the pieces fit. -/
theorem bind_address {base : Url} (named : d.operation? name = some op)
    (bound : d.bind env name supplied = .ok b) (relative : Url.isWebAddress op.path = false)
    (read : Url.ofText d.baseUrl = .ok base) (web : base.scheme = "http" ∨ base.scheme = "https") :
    ∃ own pieces segments,
      base.path = .segments own ∧
      (pathPieces op.path).mapM (Template.render ⟨b.parameters.toJson, some env⟩) = .ok pieces ∧
      b.endpoint.url = Url.text { base with path := .segments segments } ∧
      Text.pieces '/' (Url.Path.segments segments).text.toList = [] :: segments.map String.toList ∧
      (∀ c ∈ (Url.Path.segments segments).text.toList, c ≠ '?' ∧ c ≠ '#') ∧
      segments.length ≤ (Url.kept own).length + pieces.length ∧
      (Url.Appended true own pieces segments ↔ Url.Fits own pieces) := by
  obtain ⟨op', found, operation⟩ := bind_ok bound
  cases Option.some.inj (named.symm.trans found)
  obtain ⟨parameters, url, _, _, _, _, addressed, _, _, _, rfl⟩ := bindOperation_ok operation
  obtain ⟨u, _, pieces, readAgain, _, rendered, given, made⟩ := address_ok relative addressed
  cases Except.ok.inj (read.symm.trans readAgain)
  obtain ⟨own, segments, path, extended, closed, most, fits⟩ := Url.extend_web read web given
  rw [extended, Option.getD_some] at made
  refine ⟨own, pieces, segments, path, rendered, made, Url.pieces_text closed, ?_, most, fits⟩
  intro c member
  simpa [Url.endsPath] using Url.ends_text closed c member

end Definition

namespace NamedFolder

/-- A definition whose path names a folder by a parameter. -/
def text : String :=
  "name: s\nbase_url: http://h/b\noperations:\n- name: list\n" ++
  "  path: '/\x7b\x7b params.x \x7d\x7d/items'\n" ++
  "  parameters:\n  - name: x\n    required: true\n  cursor: \x7bparam: c, location: query\x7d\n"

def operation : OperationDefinition where
  name := "list"
  description := none
  method := .get
  path := "/\x7b\x7b params.x \x7d\x7d/items"
  parameters := [⟨"x", true, none, none⟩]
  params := []
  headers := []
  body := none
  cursor := ⟨"c", .query, none⟩
  pageSize := none
  itemsPath := none

def definition : Definition :=
  ⟨"s", "http://h/b", .standard, [], [operation]⟩

def base : Url :=
  ⟨"http", .authority ⟨"", "", some (.domain "h"), none⟩, .segments ["b"], none, none⟩

theorem load : Definition.load text = .ok definition := by
  have chars : text = String.ofList _ := Text.append_eq_ofList (Text.append_eq_ofList rfl rfl) rfl
  have loaded : (Definition.load text).toOption = some definition := by
    rw [Definition.load, Definition.ofYaml, Yaml.Document.ofText, chars, Yaml.eventsOf_ofList]
    decide +kernel
  exact Except.toOption_eq_some.mp loaded

theorem base_read : Url.ofText definition.baseUrl = .ok base := by
  have read : (Url.ofText definition.baseUrl).toOption = some base := by decide +kernel
  exact Except.toOption_eq_some.mp read

/-- The parameters of an invocation that names the folder. -/
def parameters (folder : String) : Parameters :=
  ⟨["x"], [("x", folder)]⟩

theorem bind {folder url : String}
    (made : (definition.bind (fun _ => none) "list" [("x", folder)]).toOption.map
      (fun b => (b.endpoint.url, b.parameters)) = some (url, parameters folder)) :
    ∃ b, definition.bind (fun _ => none) "list" [("x", folder)] = .ok b ∧ b.endpoint.url = url ∧
      b.parameters = parameters folder := by
  obtain ⟨b, bound, same⟩ := Option.map_eq_some_iff.mp made
  exact ⟨b, Except.toOption_eq_some.mp bound, congrArg Prod.fst same, congrArg Prod.snd same⟩

theorem render {folder : String}
    (made : ((Definition.pathPieces operation.path).mapM
      (Template.render ⟨(parameters folder).toJson, some fun _ => none⟩)).toOption =
        some [folder, "items"]) :
    (Definition.pathPieces operation.path).mapM
      (Template.render ⟨(parameters folder).toJson, some fun _ => none⟩) = .ok [folder, "items"] :=
  Except.toOption_eq_some.mp made

theorem fits : Url.Fits ["b"] ["a/b", "items"] where
  clean := by
    rw [List.forall_mem_cons, List.forall_mem_singleton]
    exact ⟨⟨by decide, by decide⟩, ⟨by decide, by decide⟩⟩
  base := by decide
  front := nofun

/-- A slash in the folder stays inside its segment. -/
theorem bind_inside : ∃ b, definition.operation? "list" = some operation ∧
    definition.bind (fun _ => none) "list" [("x", "a/b")] = .ok b ∧
    Url.isWebAddress operation.path = false ∧ Url.ofText definition.baseUrl = .ok base ∧
    base.scheme = "http" ∧ b.endpoint.url = "http://h/b/a%2Fb/items" ∧
    ∃ segments, b.endpoint.url = Url.text { base with path := .segments segments } ∧
      Url.Appended true ["b"] ["a/b", "items"] segments := by
  have made : (definition.bind (fun _ => none) "list" [("x", "a/b")]).toOption.map
      (fun b => (b.endpoint.url, b.parameters)) =
        some ("http://h/b/a%2Fb/items", parameters "a/b") := by decide +kernel
  obtain ⟨b, bound, address, bindings⟩ := bind made
  have named : definition.operation? "list" = some operation := by decide
  have relative : Url.isWebAddress operation.path = false := by decide
  obtain ⟨own, pieces, segments, path, rendered, url, _, _, _, appended⟩ :=
    Definition.bind_address named bound relative base_read (.inl rfl)
  rw [bindings, render (by decide +kernel)] at rendered
  cases rendered
  cases path
  exact ⟨b, named, bound, relative, base_read, rfl, address, segments, url, appended.mpr fits⟩

theorem text_base (path : Url.Path) : Url.text { base with path } = "http://h" ++ path.text := by
  simp [Url.text, base, Url.Front.text, Url.Authority.text, Url.Host.text]

/-- Two dots for the folder ask for the items of no folder, and no URL with a segment for the folder
is the address. -/
theorem folder_lost : ∃ d b, Definition.load text = .ok d ∧
    d.bind (fun _ => none) "list" [("x", "..")] = .ok b ∧ b.endpoint.url = "http://h/b/items" ∧
    Url.ofText d.baseUrl = .ok base ∧ base.path = .segments ["b"] ∧
    (Definition.pathPieces operation.path).mapM
      (Template.render ⟨b.parameters.toJson, some fun _ => none⟩) = .ok ["..", "items"] ∧
    ∀ segments, Url.Appended true ["b"] ["..", "items"] segments →
      b.endpoint.url ≠ Url.text { base with path := .segments segments } := by
  have made : (definition.bind (fun _ => none) "list" [("x", "..")]).toOption.map
      (fun b => (b.endpoint.url, b.parameters)) =
        some ("http://h/b/items", parameters "..") := by decide +kernel
  obtain ⟨b, bound, address, bindings⟩ := bind made
  refine ⟨definition, b, load, bound, address, base_read, rfl, ?_, ?_⟩
  · rw [bindings]
    exact render (by decide +kernel)
  · rintro segments ⟨added, rfl, spelt⟩ same
    obtain _ | ⟨first, _ | ⟨second, ⟨⟩⟩⟩ := spelt
    rename_i folder items
    have own : Url.Closed true "b" := by simp [Url.Closed, Url.isSlash, Url.endsPath]
    have cut := @Url.pieces_text true ["b", folder, items] (by
      simp only [List.forall_mem_cons]
      exact ⟨own, first.closed, second.closed, List.forall_mem_nil _⟩)
    have path : (Url.Path.segments ["b", folder, items]).text = "/b/items" := by
      have whole : "http://h" ++ "/b/items" =
          "http://h" ++ (Url.Path.segments ["b", folder, items]).text :=
        (address.symm.trans same).trans (text_base _)
      exact (String.append_right_inj _).mp whole.symm
    -- the address has a segment less
    have lengths := congrArg List.length cut
    rw [path] at lengths
    simp [Text.pieces] at lengths

end NamedFolder

end Pager

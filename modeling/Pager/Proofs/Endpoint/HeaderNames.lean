import Mathlib.Data.List.Nodup
import Mathlib.Data.List.Pairwise
import Pager.Proofs.Definition.Ordered
import Pager.Proofs.Definition.Sound
import Pager.Proofs.Endpoint.Frame
import Pager.Proofs.Endpoint.Parts
import Pager.Transport.Listing

namespace Pager

namespace Fields

variable {α : Type} {fields : Fields α}

/-- Names in order are different in any case of their letters exactly if none has two spellings. -/
theorem Sorted.distinct_iff (sorted : fields.Sorted) :
    Distinct fields.names ↔
      ∀ a ∈ fields.names, ∀ b ∈ fields.names, Text.sameName a b = true → a = b := by
  constructor
  · intro distinct a first b second same
    by_contra differs
    have symmetric : Std.Symm fun a b => Text.sameName a b = false :=
      ⟨fun a b apart => (Text.sameName_comm b a).trans apart⟩
    rw [List.Pairwise.forall distinct first second differs] at same
    cases same
  · intro alike
    refine sorted.nodup_names.imp_of_mem fun first second differs => ?_
    exact Bool.eq_false_iff.mpr fun same => differs (alike _ first _ second same)

end Fields

namespace Transport

variable {s : Settings} {call : Call} {message : Message} {headers : List (String × String)}
variable {name other value : String}

theorem filter_withDefault (there : name ∈ headers.map Prod.fst) :
    (withDefault headers other value).filter (fun asked => asked.1 = name) =
      headers.filter fun asked => asked.1 = name := by
  rw [withDefault]
  split
  · rfl
  · next missing =>
    have differs : other ≠ name := by
      rintro rfl
      obtain ⟨field, member, same⟩ := List.mem_map.mp there
      exact missing (List.any_eq_true.mpr ⟨field, member, decide_eq_true same⟩)
    rw [List.filter_append, List.filter_cons_of_neg (by simpa using differs), List.filter_nil,
      List.append_nil]

theorem mem_withDefault (there : name ∈ headers.map Prod.fst) :
    name ∈ (withDefault headers other value).map Prod.fst := by
  rw [withDefault]
  split
  · exact there
  · rw [List.map_append]
    exact List.mem_append_left _ there

/-- Of a name that a call has headers for, in whatever spelling, the client is asked for all of them and
for no other. -/
theorem message_headers (made : s.message call = .ok message)
    (named : name ∈ (s.headers ++ call.outgoing.headers).map Prod.fst) :
    message.headers.filter (fun asked => asked.1 = Text.lowerAscii name) =
      ((s.headers ++ call.outgoing.headers).filter fun header => Text.sameName header.1 name).map
        fun header => (Text.lowerAscii header.1, header.2) := by
  unfold Settings.message at made
  dsimp only at made
  split at made
  · cases made
  · split at made
    · cases made
    · cases made
      generalize s.headers ++ call.outgoing.headers = headers at named
      have there : Text.lowerAscii name ∈
          (headers.map fun header => (Text.lowerAscii header.1, header.2)).map Prod.fst := by
        obtain ⟨header, member, rfl⟩ := List.mem_map.mp named
        exact List.mem_map_of_mem (List.mem_map_of_mem member)
      have lowered : (headers.map fun header => (Text.lowerAscii header.1, header.2)).filter
            (fun asked => asked.1 = Text.lowerAscii name) =
          (headers.filter fun header => Text.sameName header.1 name).map
            fun header => (Text.lowerAscii header.1, header.2) := by
        rw [List.filter_map]
        refine congrArg _ (List.filter_congr fun header _ => ?_)
        rw [Bool.eq_iff_iff, Text.sameName_iff]
        exact decide_eq_true_iff
      dsimp only
      split
      · rw [filter_withDefault (mem_withDefault there), filter_withDefault there, lowered]
      · rw [filter_withDefault there, lowered]

end Transport

/-- What the templates of a binding are rendered with. -/
def Binding.context (b : Binding) (env : Template.Environment) : Template.Context :=
  ⟨b.parameters.toJson, some env⟩

namespace Definition

open Template

variable {d : Definition} {op : OperationDefinition} {env : Environment} {ctx : Context}
variable {supplied headers : List (String × String)} {b : Binding} {header : String × String}

/-- A header with a value: what its template is rendered to, and not empty. -/
def Rendered (ctx : Context) (headers : List (String × String)) (header : String × String) : Prop :=
  header.2 ≠ "" ∧ ∃ template, (header.1, template) ∈ headers ∧ render ctx template = .ok header.2

theorem mem_filled_iff (resolve : ∀ template ∈ headers.map Prod.snd, Resolves ctx template) :
    header ∈ filled ctx headers ↔ Rendered ctx headers header := by
  rw [filled, List.mem_filter, decide_eq_true_iff, List.mem_map, and_comm, Rendered]
  refine and_congr_right fun _ => ?_
  constructor
  · rintro ⟨⟨name, template⟩, member, rfl⟩
    exact ⟨template, member, render_ok_iff.mpr ⟨resolve _ (List.mem_map_of_mem member), rfl⟩⟩
  · rintro ⟨template, member, rendered⟩
    exact ⟨_, member, Prod.ext rfl (render_ok_iff.mp rendered).2⟩

theorem filled_append (front back : List (String × String)) :
    filled ctx (front ++ back) = filled ctx front ++ filled ctx back := by
  rw [filled, List.map_append, List.filter_append, filled, filled]

theorem nodup_filled (once : (headers.map Prod.fst).Nodup) :
    ((filled ctx headers).map Prod.fst).Nodup := by
  have same : (headers.map fun entry => (entry.1, substitute ctx entry.2)).map Prod.fst =
      headers.map Prod.fst := by
    rw [List.map_map]
    rfl
  exact (same ▸ once).sublist (List.filter_sublist.map Prod.fst)

/-- Whether a name has no other spelling among headers with a value. -/
def OneSpelling (ctx : Context) (headers : List (String × String)) (name : String) : Prop :=
  ∀ header, Rendered ctx headers header → Text.sameName header.1 name = true → header.1 = name

theorem rendered_append {others : List (String × String)} :
    Rendered ctx (headers ++ others) header ↔
      Rendered ctx headers header ∨ Rendered ctx others header := by
  simp only [Rendered, List.mem_append, or_and_right, exists_or, and_or_left]

section

variable (bound : d.bindOperation op env supplied = .ok b)

include bound

theorem sorted_headers : b.endpoint.headers.Sorted := by
  obtain ⟨parameters, url, _, _, _, rfl⟩ := bindOperation_ok_iff.mp bound
  exact Fields.sorted_ofPairs _

/-- No header is asked for with a binding's requests but those of its endpoint. -/
theorem outgoing_headers (cursor : Option String) :
    b.transport.headers ++ (b.endpoint.request.setCursor cursor).outgoing.headers =
      b.endpoint.headers := by
  rw [(b.endpoint.steady cursor).headers]
  obtain ⟨parameters, url, _, _, _, rfl⟩ := bindOperation_ok_iff.mp bound
  rfl

variable (ordered : d.Ordered) (member : op ∈ d.operations)

include ordered member

/-- A header is there as it is rendered, if it is the operation's own or none of those is spelled
so. -/
theorem mem_headers_iff :
    header ∈ b.endpoint.headers ↔ Rendered (b.context env) op.headers header ∨
      Rendered (b.context env) (d.headersFor op b.parameters) header ∧
        ∀ own, Rendered (b.context env) op.headers own → own.1 ≠ header.1 := by
  obtain ⟨parameters, url, _, _, resolve, rfl⟩ := bindOperation_ok_iff.mp bound
  dsimp only [substituted, Binding.context]
  generalize context : (⟨parameters.toJson, some env⟩ : Context) = ctx at resolve ⊢
  generalize kept :
    (d.headers.filter fun header => refersToDeclared header.2 parameters) = shared
  have split : d.headersFor op parameters = shared ++ op.headers := kept ▸ rfl
  have used : ∀ template ∈ (d.headersFor op parameters).map Prod.snd, Resolves ctx template := by
    intro template asked
    obtain ⟨header, inside, rfl⟩ := List.mem_map.mp asked
    exact resolve _ (mem_templatesFor inside)
  rw [split, List.map_append, List.forall_mem_append] at used
  have sharedOnce : (shared.map Prod.fst).Nodup :=
    kept ▸ ordered.headers.nodup_names.sublist (List.filter_sublist.map Prod.fst)
  have ownOnce : (op.headers.map Prod.fst).Nodup := (ordered.operations op member).headers.nodup_names
  rw [split, filled_append, Fields.mem_ofPairs_append (nodup_filled sharedOnce) (nodup_filled ownOnce)]
  simp only [mem_filled_iff used.1, mem_filled_iff used.2, rendered_append]
  refine or_congr_right ⟨And.imp_left .inl, ?_⟩
  rintro ⟨there | own, unwritten⟩
  · exact ⟨there, unwritten⟩
  · exact absurd rfl (unwritten header own)

theorem mem_names_iff {name : String} :
    name ∈ b.endpoint.headers.names ↔
      ∃ value, Rendered (b.context env) (d.headersFor op b.parameters) (name, value) := by
  rw [Fields.names, List.mem_map]
  simp only [mem_headers_iff bound ordered member]
  constructor
  · rintro ⟨header, own | ⟨used, _⟩, rfl⟩
    · exact ⟨header.2, rendered_append.mpr (.inr own)⟩
    · exact ⟨header.2, used⟩
  · rintro ⟨value, used⟩
    by_cases written : ∃ own, Rendered (b.context env) op.headers own ∧ own.1 = name
    · obtain ⟨own, rendered, same⟩ := written
      exact ⟨own, .inl rendered, same⟩
    · exact ⟨(name, value), .inr ⟨used, fun own rendered same => written ⟨own, rendered, same⟩⟩, rfl⟩

theorem distinct_headers_iff :
    Distinct b.endpoint.headers.names ↔
      ∀ header, Rendered (b.context env) (d.headersFor op b.parameters) header →
        OneSpelling (b.context env) (d.headersFor op b.parameters) header.1 := by
  rw [(sorted_headers bound).distinct_iff]
  simp only [mem_names_iff bound ordered member]
  constructor
  · intro alike header used other used' same
    exact alike _ ⟨other.2, used'⟩ _ ⟨header.2, used⟩ same
  · rintro one first ⟨value, used⟩ second ⟨value', used'⟩ same
    exact one _ used' _ used same

/-- An own header is the only one of its name exactly if no other spelling of it has a value. -/
theorem only_header_iff {own : String × String}
    (rendered : Rendered (b.context env) op.headers own) :
    (∀ header ∈ b.endpoint.headers, Text.sameName header.1 own.1 = true → header = own) ↔
      OneSpelling (b.context env) (d.headersFor op b.parameters) own.1 := by
  constructor
  · intro only other used same
    obtain ⟨header, there, named⟩ :=
      List.mem_map.mp ((mem_names_iff bound ordered member).mpr ⟨other.2, used⟩)
    rw [← only header there (named ▸ same)]
    exact named.symm
  · intro one header there same
    obtain ⟨value, used⟩ := (mem_names_iff bound ordered member).mp (List.mem_map_of_mem there)
    have written : own ∈ b.endpoint.headers :=
      (mem_headers_iff bound ordered member).mpr (.inl rendered)
    have named : header.1 = own.1 := one (header.1, value) used same
    exact List.inj_on_of_nodup_map (sorted_headers bound).nodup_names there written named

end

/-- The headers of one name that the client is asked to send, with whatever cursor, are those of the
endpoint in whatever spelling. -/
theorem asked_headers (bound : d.bindOperation op env supplied = .ok b) {cursor : Option String}
    {message : Transport.Message}
    (made : b.transport.message
      (Transport.callOf b.endpoint (b.endpoint.request.setCursor cursor)) = .ok message)
    (there : header ∈ b.endpoint.headers) :
    message.headers.filter (fun asked => asked.1 = Text.lowerAscii header.1) =
      (b.endpoint.headers.filter fun other => Text.sameName other.1 header.1).map
        fun other => (Text.lowerAscii other.1, other.2) := by
  have own := outgoing_headers bound cursor
  have named : header.1 ∈ (b.transport.headers ++
      (b.endpoint.request.setCursor cursor).outgoing.headers).map Prod.fst := by
    rw [own]
    exact List.mem_map_of_mem there
  exact own ▸ Transport.message_headers made named

/-- An operation of a loaded definition is bound with its own headers that have a value, and with
those for every operation that have one and are spelled otherwise than each of its own. No spelling
is there twice; the names are different whatever the case of their letters exactly if none of the
headers with a value has two spellings, and an own header is the only one of its name exactly if it
has no other. -/
theorem bind_header_names {text name : String} (loaded : load text = .ok d)
    (found : d.operation? name = some op) (bound : d.bind env name supplied = .ok b) :
    let ctx := b.context env
    let used := d.headersFor op b.parameters
    (∀ header, header ∈ b.endpoint.headers ↔ Rendered ctx op.headers header ∨
      Rendered ctx used header ∧ ∀ own, Rendered ctx op.headers own → own.1 ≠ header.1) ∧
    b.endpoint.headers.names.Nodup ∧
    (Distinct b.endpoint.headers.names ↔
      ∀ header, Rendered ctx used header → OneSpelling ctx used header.1) ∧
    ∀ own, Rendered ctx op.headers own →
      ((∀ header ∈ b.endpoint.headers, Text.sameName header.1 own.1 = true → header = own) ↔
        OneSpelling ctx used own.1) := by
  intro ctx used
  have ordered := ordered_of_load loaded
  have member : op ∈ d.operations := List.mem_of_find?_eq_some found
  rw [Definition.bind, found] at bound
  exact ⟨fun _ => mem_headers_iff bound ordered member, (sorted_headers bound).nodup_names,
    distinct_headers_iff bound ordered member,
    fun _ rendered => only_header_iff bound ordered member rendered⟩

end Definition

namespace OwnKey

/-- A definition with a header for every operation, and an operation with one of the same name. -/
def text (spelling : String) : String :=
  "name: s\nbase_url: http://h\nheaders:\n  Authorization: a\noperations:\n- name: list\n" ++
  "  path: /p\n  headers:\n    " ++ spelling ++ ": b\n  cursor: \x7bparam: c, location: query\x7d\n"

def operation (spelling : String) : OperationDefinition where
  name := "list"
  description := none
  method := .get
  path := "/p"
  parameters := []
  params := []
  headers := [(spelling, "b")]
  body := none
  cursor := ⟨"c", .query, none⟩
  pageSize := none
  itemsPath := none

def definition (spelling : String) : Definition :=
  ⟨"s", "http://h", .standard, [("Authorization", "a")], [operation spelling]⟩

/-- What is bound, with the headers given. -/
def binding (headers : Fields String) : Binding where
  endpoint := {
    name := "list"
    url := "http://h/p"
    method := .get
    query := []
    headers
    body := none
    cursor := ⟨"c", .query, "c"⟩
    pageSize := none
    itemsPath := none }
  parameters := ⟨[], []⟩
  transport := HttpDefinition.standard.settings

theorem load {spelling : String} {cs : List Char} (chars : text spelling = String.ofList cs)
    (read : (Definition.load (String.ofList cs)).toOption = some (definition spelling)) :
    Definition.load (text spelling) = .ok (definition spelling) :=
  chars ▸ Except.toOption_eq_some.mp read

theorem bound_over : Definition.load (text "Authorization") = .ok (definition "Authorization") ∧
    (definition "Authorization").bind (fun _ => none) "list" [] =
      .ok (binding [("Authorization", "b")]) := by
  refine ⟨load (Text.append_eq_ofList (Text.append_eq_ofList (Text.append_eq_ofList rfl rfl) rfl)
    rfl) ?_, Except.toOption_eq_some.mp (by decide +kernel)⟩
  rw [Definition.load, Definition.ofYaml, Yaml.Document.ofText, Yaml.eventsOf_ofList]
  decide +kernel

theorem bound_beside : Definition.load (text "authorization") = .ok (definition "authorization") ∧
    (definition "authorization").bind (fun _ => none) "list" [] =
      .ok (binding [("Authorization", "a"), ("authorization", "b")]) := by
  refine ⟨load (Text.append_eq_ofList (Text.append_eq_ofList (Text.append_eq_ofList rfl rfl) rfl)
    rfl) ?_, Except.toOption_eq_some.mp (by decide +kernel)⟩
  rw [Definition.load, Definition.ofYaml, Yaml.Document.ofText, Yaml.eventsOf_ofList]
  decide +kernel

/-- Spelled as the header for every operation, the own one is the only one. -/
theorem own_header : Definition.load (text "Authorization") = .ok (definition "Authorization") ∧
    (definition "Authorization").bind (fun _ => none) "list" [] =
      .ok (binding [("Authorization", "b")]) ∧
    Distinct (Fields.names [("Authorization", "b")]) := by
  obtain ⟨loaded, bound⟩ := bound_over
  refine ⟨loaded, bound, ?_⟩
  obtain ⟨_, _, distinct, _⟩ := Definition.bind_header_names loaded rfl bound
  refine distinct.mpr fun header used other used' _ => ?_
  have named : ∀ header, Definition.Rendered ⟨.object [], some fun _ => none⟩
      ((definition "Authorization").headersFor (operation "Authorization") ⟨[], []⟩) header →
        header.1 = "Authorization" := by
    rintro header ⟨_, template, member, _⟩
    have each : ∀ entry ∈ (definition "Authorization").headersFor (operation "Authorization") ⟨[], []⟩,
        entry.1 = "Authorization" := by decide +kernel
    exact each (header.1, template) member
  exact (named other used').trans (named header used).symm

/-- Spelled otherwise it is bound beside the other one, and both are asked for. -/
theorem both_headers : ∃ d b, Definition.load (text "authorization") = .ok d ∧
    d.bind (fun _ => none) "list" [] = .ok b ∧
    b.endpoint.headers = [("Authorization", "a"), ("authorization", "b")] ∧
    ¬ Distinct b.endpoint.headers.names ∧
    (b.transport.message (Transport.callOf b.endpoint b.endpoint.request)).map
        (fun message => message.headers.filter fun asked => asked.1 = "authorization") =
      .ok [("authorization", "a"), ("authorization", "b")] := by
  refine ⟨_, _, bound_beside.1, bound_beside.2, rfl, ?_, Except.toOption_eq_some.mp (by decide +kernel)⟩
  intro distinct
  exact absurd (List.rel_of_pairwise_cons distinct (List.mem_singleton_self _)) (by decide)

end OwnKey

end Pager

import Pager.Proofs.Sink.JsonLines
import Pager.Proofs.Transport.Listing
import Pager.Proofs.Walk.Served
import Pager.Selection

namespace Pager

/-- The page in a body. -/
def Endpoint.page (e : Endpoint) (body : Json) : ListPage :=
  ListPage.ofBody body e.cursor.responsePath e.itemsPath

/-- The records of a body at a path. -/
inductive RecordsAt (path : String) (body : Json) : List Json → Prop
  | list {items : List Json} : body.lookup path = some (.list items) → RecordsAt path body items
  | missing : body.lookup path = none → RecordsAt path body []
  | null : body.lookup path = some .null → RecordsAt path body []
  | single {v : Json} : body.lookup path = some v → v ≠ .null → (∀ items, v ≠ .list items) →
      RecordsAt path body [v]

theorem recordsAt_iff {path : String} {body : Json} {records : List Json} :
    RecordsAt path body records ↔ ListPage.records (body.lookup path) = records := by
  constructor
  · rintro (found | found | found | ⟨found, notNull, notList⟩)
    · rw [found]
      rfl
    · rw [found]
      rfl
    · rw [found]
      rfl
    · rw [found]
      rename_i v
      cases v with
      | null => exact absurd rfl notNull
      | list items => exact absurd rfl (notList items)
      | bool | number | text | object => rfl
  · rintro rfl
    cases found : body.lookup path with
    | none => exact .missing found
    | some v =>
      cases v with
      | null => exact .null found
      | list items => exact .list found
      | bool | number | text | object => exact .single found (by simp) (by simp)

/-- Some records are those of a chain of pages, one page after another: each page is that of a body, and
has the body's records at the path. -/
def Endpoint.Lists (e : Endpoint) (path : String) (answered : List (Except Fault ListPage))
    (records : List Json) : Prop :=
  ∃ bodies parts, answered = bodies.map (fun body => .ok (e.page body)) ∧
    Linked (bodies.map e.page) ∧ List.Forall₂ (RecordsAt path) bodies parts ∧ parts.flatten = records

section

variable {e : Endpoint} {path : String}

theorem Endpoint.items_page (located : e.itemsPath = some path) {body : Json} {records : List Json}
    (recorded : RecordsAt path body records) : (e.page body).items = records := by
  rw [page, located]
  exact recordsAt_iff.mp recorded

theorem Endpoint.flatMap_items (located : e.itemsPath = some path) {bodies : List Json}
    {parts : List (List Json)} (recorded : List.Forall₂ (RecordsAt path) bodies parts) :
    (bodies.map e.page).flatMap ListPage.items = parts.flatten := by
  induction recorded with
  | nil => rfl
  | cons first _ ih =>
    rw [List.map_cons, List.flatMap_cons, ih, items_page located first, List.flatten_cons]

/-- There is no other list of records in a chain of pages. -/
theorem Endpoint.Lists.items (located : e.itemsPath = some path)
    {answered : List (Except Fault ListPage)} {records : List Json}
    (lists : e.Lists path answered records) :
    (Walk.pages answered).flatMap ListPage.items = records := by
  obtain ⟨bodies, parts, rfl, _, recorded, rfl⟩ := lists
  have pages : bodies.map (fun body => Except.ok (e.page body)) =
      (bodies.map e.page).map (Except.ok (ε := Fault)) := by
    rw [List.map_map]
    rfl
  rw [pages, Walk.pages_map_ok, flatMap_items located recorded]

theorem Endpoint.map_page {pages : List ListPage} (read : ∀ page ∈ pages, page = e.page page.body) :
    (pages.map ListPage.body).map e.page = pages := by
  rw [List.map_map]
  exact (List.map_congr_left fun page member => (read page member).symm).trans (List.map_id _)

/-- Pages that are those of their bodies have records. -/
theorem Endpoint.lists_of_linked {pages : List ListPage} (linked : Linked pages)
    (read : ∀ page ∈ pages, page = e.page page.body) :
    ∃ records, e.Lists path (pages.map .ok) records := by
  have same := map_page read
  refine ⟨_, pages.map ListPage.body,
    pages.map fun page => ListPage.records (page.body.lookup path), ?_, ?_, ?_, rfl⟩
  · conv_lhs => rw [← same]
    rw [List.map_map]
    rfl
  · rwa [same]
  · rw [List.forall₂_map_left_iff, List.forall₂_map_right_iff, List.forall₂_same]
    exact fun page _ => recordsAt_iff.mpr rfl

end

namespace Transport

theorem decodePage_ok {e : Endpoint} {r : Response} {page : ListPage}
    (read : decodePage e r = .ok page) : page = e.page page.body := by
  unfold decodePage at read
  split at read
  · cases read
  · split at read
    · cases read
      rfl
    · split at read
      · cases read
        rfl
      · cases read

end Transport

open Transport

variable {State : Type}

/-- A listing of an endpoint without a selection, written as JSON lines, each record a line. -/
def Endpoint.listing (e : Endpoint) (t : Settings) (peer : Peer State) (invocation : Invocation)
    (maxPages : Option Nat) : Setting State ListRequest ListPage Invocation Json Writer where
  operation := e.operation t peer
  projection := Selection.toProjection e.itemsPath .records
  context := invocation
  sink := JsonLines.sink ⟨false, true⟩
  callerPages := false
  maxPages := maxPages

variable {e : Endpoint} {t : Settings} {peer : Peer State} {invocation : Invocation}
variable {maxPages : Option Nat} {path : String}

/-- Without a selection the records of a page are shown as one list. -/
theorem Endpoint.projection_listing (located : e.itemsPath = some path) :
    (e.listing t peer invocation maxPages).projection =
      .eachPage fun page _ => some (.list page.items) := by
  rw [listing, located]
  rfl

theorem Endpoint.mode_listing (located : e.itemsPath = some path) :
    (e.listing t peer invocation maxPages).projection.mode = .eachPage := by
  rw [projection_listing located]
  rfl

theorem lines_lists (pages : List ListPage) :
    (pages.map fun page => Json.list page.items).flatMap (JsonLines.lines ⟨false, true⟩) =
      (pages.flatMap ListPage.items).flatMap JsonLines.compactLine := by
  rw [List.flatMap_map, List.flatMap_assoc, ← JsonLines.line_compact true]
  rfl

/-- What an invocation writes that shows each page as it arrives: the lines of what they show. -/
theorem JsonLines.kept_of_execute {Service Request Page Context : Type} [CursorRequest Request]
    [CursorPage Page] {s : Setting Service Request Page Context Json Writer} {layout : Layout}
    (lined : s.sink = sink layout) (mode : s.projection.mode = .eachPage) {kept : Writer}
    (free : kept.Open) {turns : Nat} {request : Request} {control : Control} {service : Service}
    {f : Walk.Finished Service Request Json Writer}
    (run : Walk.execute s turns request control service kept = some f) :
    f.standing.kept = kept.extended
      (((Walk.pages (Walk.answers s.operation service f.standing.events)).filterMap fun page =>
        s.projection.apply (some page) s.context).flatMap (lines layout)) := by
  obtain ⟨replayed, trace⟩ := Walk.trace_of_execute run
  have values : Walk.offers f.standing.events = _ := trace.offers_eachPage mode
  have taken : (replies s.sink.emit kept (Walk.offers f.standing.events)).1 = f.standing.kept :=
    replayed.offered
  rw [← taken, lined, replies_open free, values]

/-- What an invocation without a selection writes: the items of its pages, each on a line. -/
theorem Endpoint.written_of_execute (located : e.itemsPath = some path) {kept : Writer}
    (free : kept.Open) {turns : Nat} {request : ListRequest} {control : Control} {service : State}
    {f : Walk.Finished State ListRequest Json Writer}
    (run : Walk.execute (e.listing t peer invocation maxPages) turns request control service kept =
      some f) :
    f.standing.kept.written = kept.written ++
      ((Walk.pages (Walk.answers (e.operation t peer) service f.standing.events)).flatMap
        ListPage.items).flatMap JsonLines.compactLine := by
  have shown (page : ListPage) : (e.listing t peer invocation maxPages).projection.apply (some page)
      invocation = some (.list page.items) := by
    rw [projection_listing located]
    rfl
  have values (came : List ListPage) : (came.filterMap fun page =>
      (e.listing t peer invocation maxPages).projection.apply (some page) invocation) =
        came.map fun page => .list page.items := by
    rw [← List.filterMap_eq_map]
    exact List.filterMap_congr fun page _ => shown page
  rw [JsonLines.kept_of_execute rfl (mode_listing located) free run, ← lines_lists, ← values]
  rfl

/-- Every page of an invocation is that of its body. -/
theorem Endpoint.read_of_mem {service : State} {requests : List ListRequest} {page : ListPage}
    (member : .ok page ∈ (replies (e.operation t peer).fetch service requests).2) :
    page = e.page page.body := by
  obtain ⟨now, sent, fetched⟩ := mem_replies member
  obtain ⟨r, _, read⟩ := Endpoint.fetch_ok fetched
  exact decodePage_ok read

/-- The default output is the records of the service, each on a line. An automatic listing that is
exhausted was given a chain of pages, and has written the compact text of each of their records and a
line break behind each, in the order of the pages and of the records on them; the records alone
determine the bytes, however they are divided into pages. Over a service that gives a chain of pages,
whatever their bodies are, the listing is exhausted and has written these lines. -/
theorem Endpoint.execute_records (located : e.itemsPath = some path) {kept : Writer}
    (free : kept.Open) :
    (∀ turns request service f,
      Walk.execute (e.listing t peer invocation maxPages) turns request .automatic service kept =
        some f → f.termination = .exhausted →
      (∃ records, e.Lists path (Walk.answers (e.operation t peer) service f.standing.events) records) ∧
      ∀ records, e.Lists path (Walk.answers (e.operation t peer) service f.standing.events) records →
        f.standing.kept.written = kept.written ++ records.flatMap JsonLines.compactLine) ∧
    ∀ bodies parts request service, Linked (bodies.map e.page) →
      List.Forall₂ (RecordsAt path) bodies parts →
      (e.operation t peer).Serves service (bodies.map e.page) →
      ∃ f, f.termination = .exhausted ∧
        (∀ turns, bodies.length ≤ turns →
          Walk.execute (e.listing t peer invocation none) turns request .automatic service kept =
            some f) ∧
        f.standing.kept.written =
          kept.written ++ parts.flatten.flatMap JsonLines.compactLine := by
  constructor
  · intro turns request service f run ended
    refine ⟨?_, fun records lists => ?_⟩
    · obtain ⟨pages, answered, linked⟩ := Walk.linked_of_execute run ended
      have came : Walk.answers (e.operation t peer) service f.standing.events = pages.map .ok :=
        answered
      rw [came]
      refine lists_of_linked linked fun page member => ?_
      exact read_of_mem (came ▸ List.mem_map_of_mem member)
    · rw [written_of_execute located free run, lists.items located]
  · intro bodies parts request service linked recorded serves
    obtain ⟨f, ended, answered, runs⟩ := Walk.execute_served
      (s := e.listing t peer invocation none) (mode_listing located) rfl linked serves
      (JsonLines.accepts_open free) request
    rw [List.length_map] at runs
    refine ⟨f, ended, runs, ?_⟩
    have came : Walk.answers (e.operation t peer) service f.standing.events =
        (bodies.map e.page).map .ok := answered
    rw [written_of_execute located free (runs _ (Nat.le_refl _)), came, Walk.pages_map_ok,
      flatMap_items located recorded]

namespace ScriptedList

/-- A page with two records, the second of them a list, and a page that is itself the one record. -/
def twoBodies : Script :=
  ⟨[.response ⟨200, [], some (Text.toBytes "\x7b\"items\": [1, [2]], \"next\": \"b\"\x7d")⟩,
    .response ⟨200, [], some (Text.toBytes "\x7b\"items\": \x7b\"k\": null\x7d\x7d")⟩], []⟩

/-- The records of both pages are written, each on a line. -/
theorem twoBodies_records : endpoint.itemsPath = some "items" ∧ Writer.unlimited.Open ∧
    ∃ f records,
      Walk.execute (endpoint.listing settings (Script.peer fun _ => true)
        ⟨fun _ => none, fun _ => false, none⟩ none) 2 endpoint.request .automatic twoBodies .unlimited =
          some f ∧
      f.termination = .exhausted ∧
      endpoint.Lists "items" (Walk.answers (endpoint.operation settings (Script.peer fun _ => true))
        twoBodies f.standing.events) records ∧
      f.standing.kept.written = records.flatMap JsonLines.compactLine ∧
      f.standing.kept.written = Text.toBytes "1\n[2]\n\x7b\"k\":null\x7d\n" := by
  have ran : (Walk.execute (endpoint.listing settings (Script.peer fun _ => true)
      ⟨fun _ => none, fun _ => false, none⟩ none) 2 endpoint.request .automatic twoBodies
        .unlimited).map (fun f => (f.termination, f.standing.kept.written)) =
      some (.exhausted, Text.toBytes "1\n[2]\n\x7b\"k\":null\x7d\n") := by decide +kernel
  obtain ⟨f, run, told⟩ := Option.map_eq_some_iff.mp ran
  have free := Writer.unlimited_open
  obtain ⟨⟨records, lists⟩, lines⟩ :=
    (Endpoint.execute_records rfl free).1 2 endpoint.request twoBodies f run (congrArg Prod.fst told)
  exact ⟨rfl, free, f, records, run, congrArg Prod.fst told, lists, lines records lists,
    congrArg Prod.snd told⟩

end ScriptedList

end Pager

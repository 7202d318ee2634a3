import Pager.Proofs.Sink.Framing
import Pager.Proofs.Transport.Records
import Pager.Proofs.Walk.Showing
import Pager.Proofs.Walk.Selected

namespace Pager

/-- The records found at a path are the elements of the value there. -/
theorem ListPage.records_eq {found : Option Json} (filled : found ≠ some .null) :
    records found = found.toList.flatMap Json.elements := by
  cases found with
  | none => rfl
  | some v =>
    rw [Option.toList_some, List.flatMap_singleton]
    cases v with
    | null => exact absurd rfl filled
    | bool | number | text | list | object => rfl

namespace JsonLines

/-- The lines of what is found at a path. -/
def linesAt (layout : Layout) (path : String) (body : Json) : Text.Bytes :=
  (body.lookup path).toList.flatMap (lines layout)

variable {pretty : Bool} {w : Writer} {found : Option Json}

theorem parts_records (filled : found ≠ some .null) :
    parts ⟨pretty, true⟩ (.list (ListPage.records found)) = found.toList.flatMap (parts ⟨pretty, true⟩) :=
  ListPage.records_eq filled

/-- Records are written as the value is in which they were found. -/
theorem emit_records (filled : found ≠ some .null) :
    ((sink ⟨pretty, true⟩).emit w (.list (ListPage.records found))).1 =
      (replies (sink ⟨pretty, true⟩).emit w found.toList).1 := by
  change (writeDocuments _ w (documents _ _)).1 = _
  rw [documents_eq, parts_records filled, ← documents_eq]
  cases found with
  | none => rfl
  | some v =>
    rw [Option.toList_some, List.flatMap_singleton]
    rfl

/-- A document and its line break are written as one text. -/
theorem writeDocument_eq (layout : Layout) (w : Writer) (v : Json) :
    (writeDocument layout w v).1 = (w.write (line layout v)).1 := by
  obtain ⟨limit, flushFails, written⟩ := w
  cases limit with
  | none => simp [writeDocument, Writer.write, line]
  | some limit =>
    simp only [writeDocument, Writer.write, decide_eq_true_eq, line]
    split
    · rename_i whole
      simp only [List.take_append, List.length_append, List.take_of_length_le whole, List.append_assoc,
        Nat.sub_sub]
    · rename_i cut
      rw [List.take_append_of_le_length (Nat.le_of_not_le cut)]

theorem writeDocuments_single (layout : Layout) (w : Writer) (v : Json) :
    (writeDocuments layout w [v]).1 = (w.write (line layout v)).1 := by
  rw [writeDocuments, ← writeDocument_eq]
  rcases writeDocument layout w v with ⟨later, _ | fault⟩ <;> rfl

theorem line_null (pretty : Bool) : line ⟨pretty, true⟩ .null = Text.toBytes "null\n" := by
  have text : documentText ⟨pretty, true⟩ .null = "null" := by
    cases pretty <;> rfl
  rw [line, text, ← Text.toBytes_append]
  rfl

theorem emit_null : ((sink ⟨pretty, true⟩).emit w .null).1 = (w.write (Text.toBytes "null\n")).1 := by
  rw [← line_null pretty]
  exact writeDocuments_single _ w .null

/-- The lines of the records of some bodies are those found in the bodies that have no null there. -/
theorem lines_records (path : String) (bodies : List Json) :
    (bodies.map fun body => Json.list (ListPage.records (body.lookup path))).flatMap
        (lines ⟨pretty, true⟩) =
      (bodies.filter fun body => body.lookup path ≠ some .null).flatMap
        (linesAt ⟨pretty, true⟩ path) := by
  induction bodies with
  | nil => rfl
  | cons body rest ih =>
    rw [List.map_cons, List.flatMap_cons, ih]
    by_cases null : body.lookup path = some .null
    · rw [List.filter_cons_of_neg (by simpa using null), null]
      rfl
    · rw [List.filter_cons_of_pos (by simpa using null), List.flatMap_cons, lines,
        parts_records null, linesAt, List.flatMap_assoc]
      rfl

end JsonLines

namespace Endpoint

open Transport

/-- What a selection shows of the page in a body. -/
def shows (e : Endpoint) (selection : Selection) (invocation : Invocation) (body : Json) : Option Json :=
  (selection.toProjection e.itemsPath).apply (some (e.page body)) invocation

/-- What a writer of JSON lines has come to once a selection of the page in a body was offered to it. -/
def offered (e : Endpoint) (selection : Selection) (invocation : Invocation) (pretty : Bool) (w : Writer)
    (body : Json) : Writer :=
  (replies (JsonLines.sink ⟨pretty, true⟩).emit w (e.shows selection invocation body).toList).1

variable {e : Endpoint} {path : String} {invocation : Invocation} {pretty : Bool} {w : Writer}
variable {body : Json} {bodies : List Json}

theorem shows_atPath : e.shows (.atPath path) invocation body = body.lookup path := rfl

theorem shows_records (located : e.itemsPath = some path) :
    e.shows .records invocation body = some (.list (ListPage.records (body.lookup path))) := by
  rw [shows, located, ← items_page located (recordsAt_iff.mpr rfl)]
  rfl

theorem mode_records (located : e.itemsPath = some path) :
    (Selection.records.toProjection e.itemsPath : Projection ListPage _ _).mode = .eachPage := by
  rw [located]
  rfl

variable {State : Type} {t : Settings} {peer : Peer State} {given : Given} {maxPages : Option Nat}

/-- The bodies of the pages that an invocation was given. -/
theorem exists_bodies (e : Endpoint) (t : Settings) (peer : Peer State) (service : State)
    (events : List (Event ListRequest Json)) :
    ∃ bodies : List Json, Walk.pages (Walk.answers (e.operation t peer) service events) =
      bodies.map e.page := by
  refine ⟨_, (map_page fun page member => ?_).symm⟩
  obtain ⟨answer, answered, told⟩ := List.mem_filterMap.mp member
  rw [Except.toOption_eq_some.mp told] at answered
  exact read_of_mem answered

/-- An invocation of an endpoint that emits a selection as JSON lines. -/
def selecting (e : Endpoint) (t : Settings) (peer : Peer State) (selection : Selection) (given : Given)
    (pretty : Bool) (maxPages : Option Nat) :
    Setting State ListRequest ListPage Invocation Json Writer :=
  selection.setting e.itemsPath given (e.operation t peer) (JsonLines.sink ⟨pretty, true⟩) maxPages

/-- A listing without a selection has ended in the same way as one of a path, behind the same fetches, and
has written what that one has for the pages with no null at the path. -/
structure SameButNulls (e : Endpoint) (t : Settings) (peer : Peer State) (path : String) (pretty : Bool)
    (service : State) (w : Writer) (f g : Walk.Finished State ListRequest Json Writer) : Prop where
  same : f.SameButEmitted g
  written : ∃ bodies : List Json,
    Walk.pages (Walk.answers (e.operation t peer) service g.standing.events) = bodies.map e.page ∧
    g.standing.kept = w.extended (bodies.flatMap (JsonLines.linesAt ⟨pretty, true⟩ path)) ∧
    f.standing.kept = w.extended ((bodies.filter fun body => body.lookup path ≠ some .null).flatMap
      (JsonLines.linesAt ⟨pretty, true⟩ path))

section

variable {turns : Nat} {request : ListRequest} {control : Control} {service : State}
variable {f : Walk.Finished State ListRequest Json Writer}

/-- The lines of what a selection shows of the pages that came are written. -/
theorem kept_selecting {selection : Selection}
    (mode : (selection.toProjection e.itemsPath : Projection ListPage _ _).mode = .eachPage)
    (free : w.Open)
    (run : Walk.execute (e.selecting t peer selection given pretty maxPages) turns request control
      service w = some f)
    (came : Walk.pages (Walk.answers (e.operation t peer) service f.standing.events) =
      bodies.map e.page) :
    f.standing.kept = w.extended ((bodies.filterMap (e.shows selection given.invocation)).flatMap
      (JsonLines.lines ⟨pretty, true⟩)) := by
  have kept := JsonLines.kept_of_execute rfl mode free run
  have answered : Walk.pages (Walk.answers (e.selecting t peer selection given pretty maxPages).operation
      service f.standing.events) = bodies.map e.page := came
  rw [kept, answered, List.filterMap_map]
  rfl

theorem kept_atPath (free : w.Open)
    (run : Walk.execute (e.selecting t peer (.atPath path) given pretty maxPages) turns request control
      service w = some f)
    (came : Walk.pages (Walk.answers (e.operation t peer) service f.standing.events) =
      bodies.map e.page) :
    f.standing.kept = w.extended (bodies.flatMap (JsonLines.linesAt ⟨pretty, true⟩ path)) := by
  rw [kept_selecting rfl free run came, List.filterMap_eq_flatMap_toList, List.flatMap_assoc]
  rfl

theorem kept_records (located : e.itemsPath = some path) (free : w.Open)
    (run : Walk.execute (e.selecting t peer .records given pretty maxPages) turns request control
      service w = some f)
    (came : Walk.pages (Walk.answers (e.operation t peer) service f.standing.events) =
      bodies.map e.page) :
    f.standing.kept = w.extended ((bodies.filter fun body => body.lookup path ≠ some .null).flatMap
      (JsonLines.linesAt ⟨pretty, true⟩ path)) := by
  have shown : e.shows .records given.invocation =
      fun body => some (.list (ListPage.records (body.lookup path))) :=
    funext fun _ => shows_records located
  rw [kept_selecting (mode_records located) free run came, shown, ← JsonLines.lines_records,
    ← List.filterMap_eq_map]
  rfl

end

/-- The two listings come to their ends together, or neither does. -/
theorem execute_sameButNulls (located : e.itemsPath = some path) (free : w.Open) (turns : Nat)
    (request : ListRequest) (control : Control) (service : State) :
    Option.Rel (e.SameButNulls t peer path pretty service w)
      (Walk.execute (e.selecting t peer .records given pretty maxPages) turns request control service w)
      (Walk.execute (e.selecting t peer (.atPath path) given pretty maxPages) turns request control
        service w) := by
  have again : ((Selection.atPath path).toProjection e.itemsPath : Projection ListPage _ _).mode =
      .eachPage := rfl
  have ends : Option.Rel Walk.Finished.SameButEmitted
      (Walk.execute (e.selecting t peer .records given pretty maxPages) turns request control service w)
      (Walk.execute (e.selecting t peer (.atPath path) given pretty maxPages) turns request control
        service w) :=
    Walk.execute_showing (s := e.selecting t peer .records given pretty maxPages)
      (mode_records located) again turns request control service (JsonLines.accepts_open free)
  generalize first : Walk.execute (e.selecting t peer .records given pretty maxPages) turns request
    control service w = one at ends ⊢
  generalize second : Walk.execute (e.selecting t peer (.atPath path) given pretty maxPages) turns
    request control service w = other at ends ⊢
  cases ends with
  | none => exact .none
  | @some f g same =>
    obtain ⟨bodies, came⟩ := e.exists_bodies t peer service g.standing.events
    refine .some ⟨same, bodies, came, kept_atPath free second came,
      kept_records located free first ?_⟩
    rw [Walk.answers, same.standing.requests]
    exact came

/-- Asking for the path at which the records are found changes nothing but nulls. If the path is read as
itself when it is selected, then for the page in any body, and for any writer that it is offered to, full
or not, as much is written as without a selection, unless the value at the path is null: then nothing is
written without a selection, and a line with a null where the path is asked for. Both invocations of a
listing fetch the same pages and end in the same way, over a writer that takes everything, and what is
written without a selection is what was written for the path, of the pages that have no null there. -/
theorem explicit_path (t : Settings) (peer : Peer State) (located : e.itemsPath = some path)
    (own : Selection.ofText path = .ok (.atPath path)) :
    (∀ invocation, OutputOptions.resolve ⟨none, false⟩ invocation = .ok .records ∧
      OutputOptions.resolve ⟨some path, false⟩ invocation = .ok (.atPath path)) ∧
    (∀ invocation pretty w body,
      (body.lookup path ≠ some .null →
        e.offered (.atPath path) invocation pretty w body = e.offered .records invocation pretty w body) ∧
      (body.lookup path = some .null →
        e.offered .records invocation pretty w body = w ∧
        e.offered (.atPath path) invocation pretty w body = (w.write (Text.toBytes "null\n")).1)) ∧
    ∀ given pretty maxPages turns request control (service : State) (w : Writer), w.Open →
      Option.Rel (e.SameButNulls t peer path pretty service w)
        (Walk.execute (e.selecting t peer .records given pretty maxPages) turns request control service w)
        (Walk.execute (e.selecting t peer (.atPath path) given pretty maxPages) turns request control
          service w) := by
  refine ⟨fun invocation => ⟨rfl, OutputOptions.resolve_ok_iff.mpr ⟨own, nofun⟩⟩,
    fun invocation pretty w body => ⟨fun filled => ?_, fun null => ?_⟩,
    fun given pretty maxPages turns request control service w free =>
      execute_sameButNulls located free turns request control service⟩
  · rw [offered, offered, shows_atPath, shows_records located]
    exact (JsonLines.emit_records filled).symm
  · rw [offered, offered, shows_atPath, shows_records located, null]
    exact ⟨rfl, JsonLines.emit_null⟩

end Endpoint

namespace ScriptedList

open Transport

/-- A page with two records, the second of them a list, and a page that has a null for its records. -/
def nullBehind : Script :=
  ⟨[.response ⟨200, [], some (Text.toBytes "\x7b\"items\": [1, [2]], \"next\": \"b\"\x7d")⟩,
    .response ⟨200, [], some (Text.toBytes "\x7b\"items\": null\x7d")⟩], []⟩

/-- A listing of these two pages that emits a selection. -/
def listed (selection : Selection) : Option (Walk.Finished Script ListRequest Json Writer) :=
  Walk.execute (endpoint.selecting settings (Script.peer fun _ => true) selection
    (.parameters ⟨[], []⟩) false none) 2 endpoint.request .automatic nullBehind .unlimited

/-- The null is written where the path to the records is asked for, and else it is not. -/
theorem items_asked : endpoint.itemsPath = some "items" ∧
    Selection.ofText "items" = .ok (.atPath "items") ∧ Writer.unlimited.Open ∧
    (∀ invocation, endpoint.offered .records invocation false .unlimited
      (.object [("items", .null)]) = .unlimited) ∧
    ∃ f g, listed .records = some f ∧ listed (.atPath "items") = some g ∧
      endpoint.SameButNulls settings (Script.peer fun _ => true) "items" false nullBehind .unlimited f g ∧
      f.standing.kept.written = Text.toBytes "1\n[2]\n" ∧
      g.standing.kept.written = Text.toBytes "1\n[2]\nnull\n" := by
  have own : Selection.ofText "items" = .ok (.atPath "items") := by
    have read : (Selection.ofText "items").toOption = some (.atPath "items") := by decide +kernel
    exact Except.toOption_eq_some.mp read
  have null : (Json.object [("items", .null)]).lookup "items" = some .null := by decide +kernel
  have free := Writer.unlimited_open
  have first : (listed .records).map (fun f => f.standing.kept.written) =
      some (Text.toBytes "1\n[2]\n") := by decide +kernel
  have second : (listed (.atPath "items")).map (fun g => g.standing.kept.written) =
      some (Text.toBytes "1\n[2]\nnull\n") := by decide +kernel
  obtain ⟨f, run, written⟩ := Option.map_eq_some_iff.mp first
  obtain ⟨g, again, more⟩ := Option.map_eq_some_iff.mp second
  obtain ⟨_, shown, ends⟩ := Endpoint.explicit_path (e := endpoint) settings
    (Script.peer fun _ => true) rfl own
  have related : Option.Rel _ (listed .records) (listed (.atPath "items")) :=
    ends (.parameters ⟨[], []⟩) false none 2 endpoint.request .automatic nullBehind .unlimited free
  rw [run, again] at related
  refine ⟨rfl, own, free, fun invocation => ((shown invocation false .unlimited _).2 null).1,
    f, g, run, again, ?_, written, more⟩
  cases related with
  | some ended => exact ended

end ScriptedList

end Pager

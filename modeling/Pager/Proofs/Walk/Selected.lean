import Pager.Proofs.Selection
import Pager.Proofs.Walk.Delivery
import Pager.Proofs.Walk.Resume

namespace Pager

open Walk

variable {Service Request Page Kept : Type}

/-- What happens in an invocation of a selection over requests with their pages, `whole` being a page
as a value and `records` its records; and how many values are emitted. -/
inductive Selection.Delivers (given : Given) (whole records : Page → Json)
    (came : List (Request × Page)) : Selection → List (Event Request Json) → Nat → Prop
  /-- One value behind all the fetches, null if nothing was given for the parameter. -/
  | parameter (name : String) : Delivers given whole records came (.parameter name)
      (came.map (fun (request, _) => .fetched request) ++ [.emitted ((given.value? name).getD .null)]) 1
  | wholePage : Delivers given whole records came .wholePage
      (came.flatMap fun (request, page) => [.fetched request, .emitted (whole page)]) came.length
  | records : Delivers given whole records came .records
      (came.flatMap fun (request, page) => [.fetched request, .emitted (records page)]) came.length
  /-- The value at the path of each page that has it. -/
  | atPath (path : String) : Delivers given whole records came (.atPath path)
      (came.flatMap fun (request, page) =>
        .fetched request :: ((whole page).lookup path).toList.map .emitted)
      (came.countP fun (_, page) => ((whole page).lookup path).isSome)

/-- An invocation that emits a selection, of an operation that finds its records at a path. -/
def Selection.setting [Viewable Page] (selection : Selection) (records? : Option String)
    (given : Given) (operation : Operation Service Request Page) (sink : Sink Kept Json)
    (maxPages : Option Nat) : Setting Service Request Page Invocation Json Kept where
  operation := operation
  projection := selection.toProjection records?
  context := given.invocation
  sink := sink
  callerPages := false
  maxPages := maxPages

/-- A value is emitted for each visited page that shows one. -/
theorem Walk.length_shown (shown : Page → Option Json) {asked : List Request} {came : List Page}
    (same : asked.length = came.length) :
    (came.filterMap shown).length = (asked.zip came).countP fun (_, page) => (shown page).isSome := by
  have pages : (asked.zip came).map Prod.snd = came := List.map_snd_zip (Nat.le_of_eq same.symm)
  rw [List.length_filterMap_eq_countP, ← congrArg (List.countP _) pages, List.countP_map]
  rfl

/-- What an invocation of a selection has come to that was answered with these pages. -/
structure Selection.Fulfilled (selection : Selection) (given : Given) (whole records : Page → Json)
    (operation : Operation Service Request Page) (service : Service) (sink : Sink Kept Json)
    (kept : Kept) (f : Finished Service Request Json Kept) (came : List Page) : Prop where
  answered : answers operation service f.standing.events = came.map .ok
  counted : f.outcome.pages = came.length
  delivers : selection.Delivers given whole records ((requests f.standing.events).zip came)
    f.standing.events f.outcome.emitted
  taken : replies sink.emit kept (accepted f.standing.events) =
    (f.standing.kept, (accepted f.standing.events).map fun _ => none)

section

variable [Viewable Page] {selection : Selection} {records? : Option String} {given : Given}
variable {operation : Operation Service Request Page} {sink : Sink Kept Json} {maxPages : Option Nat}
variable {service : Service} {kept : Kept} {f : Finished Service Request Json Kept} {came : List Page}
variable {records : Page → Json}

/-- Each selection shows of a page what it stands for, and behind the last page the value of a
parameter. -/
theorem Walk.Delivered.delivers
    (delivered : Delivered (selection.setting records? given operation sink maxPages) service kept f
      came)
    (known : ∀ name, selection = .parameter name → given.invocation.hasParameter name = true)
    (viewed : ∀ (page : Page) path, Viewable.select page path = (Viewable.toJson page).lookup path)
    (found : ∀ page : Page, (Selection.toProjection records? .records).apply (some page)
      given.invocation = some (records page)) :
    selection.Delivers given Viewable.toJson records ((requests f.standing.events).zip came)
      f.standing.events f.outcome.emitted := by
  obtain ⟨answered, events, accepted, _, _, emitted⟩ := delivered
  rw [accepted, List.length_append, length_shown _ (length_requests answered)] at emitted
  generalize requests f.standing.events = asked at events emitted ⊢
  have none_shown : (asked.zip came).countP (fun _ => false) = 0 := congrFun List.countP_false _
  have all_shown : (asked.zip came).countP (fun _ => true) = (asked.zip came).length :=
    congrFun List.countP_true _
  -- Only a parameter waits for the end, and nothing of a page is shown for it.
  cases selection with
  | parameter name =>
    have last : (Selection.setting (.parameter name) records? given operation sink maxPages).shownLast =
        some ((given.value? name).getD .null) := given.parameter?_eq (known name rfl)
    rw [last] at events emitted
    rw [events, emitted.trans (congrArg (· + 1) none_shown)]
    exact List.map_eq_flatMap ▸ .parameter name
  | wholePage =>
    rw [events.trans (List.append_nil _), emitted.trans all_shown]
    exact .wholePage
  | records =>
    have mode : (Selection.setting .records records? given operation sink maxPages).projection.mode =
        .eachPage := by cases records? <;> rfl
    have shown : (Selection.setting .records records? given operation sink maxPages).shown =
        fun page => some (records page) :=
      funext fun page => (Setting.shown_eachPage mode page).trans (found page)
    rw [shown, Setting.shownLast_eachPage mode] at events emitted
    rw [events.trans (List.append_nil _), emitted.trans all_shown]
    exact .records
  | atPath path =>
    have shown : (Selection.setting (.atPath path) records? given operation sink maxPages).shown =
        fun page => (Viewable.toJson page).lookup path := funext fun page => viewed page path
    rw [shown] at events emitted
    rw [events.trans (List.append_nil _), emitted]
    exact .atPath path

variable [CursorRequest Request] [CursorPage Page] {turns : Nat} {request : Request} {control : Control}

theorem Selection.fulfilled_of_execute
    (known : ∀ name, selection = .parameter name → given.invocation.hasParameter name = true)
    (viewed : ∀ (page : Page) path, Viewable.select page path = (Viewable.toJson page).lookup path)
    (found : ∀ page : Page, (Selection.toProjection records? .records).apply (some page)
      given.invocation = some (records page))
    (run : execute (selection.setting records? given operation sink maxPages) turns request control
      service kept = some f) (clean : f.fault = none) :
    ∃ came, selection.Fulfilled given Viewable.toJson records operation service sink kept f came := by
  obtain ⟨came, delivered⟩ := delivered_of_execute run clean
  exact ⟨came, delivered.answered, delivered.pages, delivered.delivers known viewed found,
    delivered.taken⟩

end

theorem Bucket.Page.lookup_records (page : Bucket.Page) :
    page.toJson.lookup Bucket.recordsPath =
      some (.list (page.contents.map Bucket.ObjectSummary.toJson)) := by
  have steps : Json.steps Bucket.recordsPath = [Bucket.recordsPath] := by decide +kernel
  rw [Json.lookup, steps]
  simp [Json.descend, Json.child?, Fields.find?, Bucket.Page.toJson, Bucket.recordsPath]

section

variable [CursorRequest Request] {options : OutputOptions} {selection : Selection} {given : Given}
variable {sink : Sink Kept Json} {maxPages : Option Nat} {turns : Nat} {request : Request}
variable {control : Control} {service : Service} {kept : Kept}

/-- What options ask for and the invocation accepts is delivered by every walk without a fault,
whatever ends it: over pages of a list, whose records are found at any path or are the whole page, and
over pages of a bucket. -/
theorem resolve_delivers (resolved : options.resolve given.invocation = .ok selection) :
    (∀ (records? : Option String) (operation : Operation Service Request ListPage)
        (f : Finished Service Request Json Kept),
      execute (selection.setting records? given operation sink maxPages) turns request control
        service kept = some f → f.fault = none →
      ∃ came, selection.Fulfilled given ListPage.body
        (records?.elim ListPage.body fun _ page => .list page.items) operation service sink kept f
        came) ∧
    (∀ records? ∈ [none, some Bucket.recordsPath],
      ∀ (operation : Operation Service Request Bucket.Page) (f : Finished Service Request Json Kept),
      execute (selection.setting records? given operation sink maxPages) turns request control
        service kept = some f → f.fault = none →
      ∃ came, selection.Fulfilled given Bucket.Page.toJson
        (records?.elim Bucket.Page.toJson fun _ page =>
          .list (page.contents.map Bucket.ObjectSummary.toJson)) operation service sink kept f
        came) := by
  have known := (OutputOptions.resolve_ok_iff.mp resolved).2
  constructor
  · intro records? operation f run clean
    refine Selection.fulfilled_of_execute known (fun _ _ => rfl) (fun page => ?_) run clean
    cases records? <;> rfl
  · intro records? either operation f run clean
    refine Selection.fulfilled_of_execute known (fun _ _ => rfl) (fun page => ?_) run clean
    rcases List.mem_pair.mp either with rfl | rfl
    · rfl
    · exact page.lookup_records

end

namespace PhotoBucket

/-- A caller that named a bucket and no prefix. -/
def given : Given :=
  .parameters ⟨["Bucket", "Prefix"], [("Bucket", "photos")]⟩

def options : OutputOptions :=
  ⟨some "^prefix", false⟩

/-- The prefix is asked for over two of three pages. -/
def setting : Setting Nat ListRequest ListPage Invocation Json (List Json) :=
  Selection.setting (.parameter "prefix") none given overThreePages.operation .collect (some 2)

def request : ListRequest :=
  ⟨[], [], none, "after", .query, none⟩

theorem resolve : options.resolve given.invocation = .ok (.parameter "prefix") := by
  have resolved : (options.resolve given.invocation).toOption = some (.parameter "prefix") := by
    decide +kernel
  exact Except.toOption_eq_some.mp resolved

def finished : Finished Nat ListRequest Json (List Json) where
  standing := {
    request := { request with cursor := some "t1" }
    service := 2
    kept := [.null]
    progress := ⟨some "t2", 2, 1⟩
    events := [.fetched request, .fetched { request with cursor := some "t1" }, .emitted .null] }
  termination := .pageLimit
  fault := none

theorem run : execute setting 3 request .automatic 0 [] = some finished :=
  rfl

/-- The prefix that was not given comes out as one null behind both fetches. -/
theorem null_delivered : options.resolve given.invocation = .ok (.parameter "prefix") ∧
    execute setting 3 request .automatic 0 [] = some finished ∧
    ∃ came, (Selection.parameter "prefix").Fulfilled given ListPage.body ListPage.body
      overThreePages.operation 0 .collect [] finished came :=
  ⟨resolve, run, (resolve_delivers resolve).1 none _ _ run rfl⟩

end PhotoBucket

end Pager

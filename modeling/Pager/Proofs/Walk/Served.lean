import Pager.Proofs.Walk.Chain
import Pager.Proofs.Walk.Outcome
import Pager.Proofs.Walk.Run

namespace Pager

variable {Service Request Page Context Value Kept : Type}

/-- The service answers its next calls with these pages in their order, whatever it is asked. -/
def Operation.Serves (operation : Operation Service Request Page) (service : Service)
    (pages : List Page) : Prop :=
  ∀ requests : List Request, requests.length = pages.length →
    (replies operation.fetch service requests).2 = pages.map .ok

/-- Pages that all name a further one, but for the last. -/
inductive Linked [CursorPage Page] : List Page → Prop
  | last {page : Page} : noneIfEmpty (CursorPage.nextCursor page) = none → Linked [page]
  | next {page : Page} {rest : List Page} {cursor : String} :
      noneIfEmpty (CursorPage.nextCursor page) = some cursor → Linked rest → Linked (page :: rest)

theorem Operation.Serves.fetch {operation : Operation Service Request Page} {service : Service}
    {page : Page} {rest : List Page} (serves : operation.Serves service (page :: rest))
    (request : Request) :
    ∃ later, operation.fetch service request = (later, .ok page) ∧ operation.Serves later rest := by
  have answered (requests : List Request) (long : requests.length = rest.length) :
      (operation.fetch service request).2 = .ok page ∧
        (replies operation.fetch (operation.fetch service request).1 requests).2 = rest.map .ok := by
    have all := serves (request :: requests) (congrArg (· + 1) long)
    rw [replies_cons, List.map_cons] at all
    exact List.cons.inj all
  have first := (answered (List.replicate rest.length request) List.length_replicate).1
  exact ⟨_, Prod.ext rfl first, fun requests long => (answered requests long).2⟩

theorem Linked.of_getElem? [CursorPage Page] {pages : List Page} (filled : pages ≠ [])
    (named : ∀ k page, pages[k]? = some page →
      ((noneIfEmpty (CursorPage.nextCursor page)).isSome = true ↔ k + 1 < pages.length)) :
    Linked pages := by
  induction pages with
  | nil => exact absurd rfl filled
  | cons page rest ih =>
    have first := named 0 page rfl
    cases rest with
    | nil =>
      refine .last (Option.not_isSome_iff_eq_none.mp fun more => ?_)
      exact absurd (first.mp more) (by simp)
    | cons second rest =>
      obtain ⟨cursor, further⟩ := Option.isSome_iff_exists.mp (first.mpr (by simp))
      refine .next further (ih (List.cons_ne_nil _ _) fun k later found => ?_)
      have shifted := named (k + 1) later found
      simpa using shifted

namespace Walk

variable {s : Setting Service Request Page Context Value Kept}

variable [CursorPage Page]

/-- A walk that is exhausted stands behind a page that names no further one. -/
theorem last_of_exhausted {page : Page} {p : Progress}
    (stands : p.cursor = noneIfEmpty (CursorPage.nextCursor page))
    (stop : stop? s p = some .exhausted) : noneIfEmpty (CursorPage.nextCursor page) = none := by
  rcases stop?_eq_some stop with ⟨_, other⟩ | ⟨_, more, _⟩ | ⟨_, _, other, _⟩
  · cases other
  · rw [Progress.hasMore, stands, hasCursor_noneIfEmpty] at more
    exact Option.not_isSome_iff_eq_none.mp (Bool.eq_false_iff.mp more)
  · cases other

variable [CursorRequest Request]

/-- A walk that nobody stops follows the pages it is given to the last one. -/
theorem loop_served (caller : s.callerPages = false) (uncapped : s.maxPages = none) {pages : List Page}
    (linked : Linked pages) {now : Standing Service Request Value Kept}
    (serves : s.operation.Serves now.service pages) (accepts : s.sink.Accepts now.kept) :
    ∃ last, (requests last.events).length = (requests now.events).length + pages.length ∧
      ∀ turns, pages.length ≤ turns → loop s turns now = some ⟨last, .exhausted, none⟩ := by
  induction linked generalizing now with
  | @last page final =>
    obtain ⟨service, fetched, _⟩ := serves.fetch now.asked
    obtain ⟨kept, takes, _⟩ := accepts.takes (s.shown page).toList
    have stop : stop? s (now.passed service kept page (s.shown page)).progress = some .exhausted := by
      simp [stop?, caller, Standing.hasMore_passed, final]
    refine ⟨now.passed service kept page (s.shown page), ?_, fun turns enough => ?_⟩
    · simp [Standing.passed, requests_append, requests_of_taken]
    · obtain ⟨turns, rfl⟩ := Nat.exists_eq_add_of_le' enough
      simp only [List.length_singleton, loop, turn_of_page fetched takes, behind_of_stop stop]
  | @next page rest cursor named linked ih =>
    obtain ⟨service, fetched, serves⟩ := serves.fetch now.asked
    obtain ⟨kept, takes, accepts⟩ := accepts.takes (s.shown page).toList
    have onward : stop? s (now.passed service kept page (s.shown page)).progress = none := by
      refine stop?_eq_none_iff.mpr ⟨caller, ?_, by simp [uncapped]⟩
      rw [Standing.hasMore_passed, named]
      rfl
    have next : s.operation.Serves (now.passed service kept page (s.shown page)).service rest := serves
    obtain ⟨last, asked, ends⟩ := ih next accepts
    refine ⟨last, ?_, fun turns enough => ?_⟩
    · rw [asked]
      simp [Standing.passed, requests_append, requests_of_taken]
      omega
    · obtain ⟨turns, rfl⟩ := Nat.exists_eq_add_of_le' enough
      simp only [List.length_cons, ← Nat.add_assoc, loop, turn_of_page fetched takes,
        behind_of_onward onward]
      exact ends _ (Nat.le_add_left _ _)

/-- Over a service that gives a chain of pages, an automatic invocation is exhausted behind them. -/
theorem execute_served (mode : s.projection.mode = .eachPage) (uncapped : s.maxPages = none)
    {pages : List Page} (linked : Linked pages) {service : Service} {kept : Kept}
    (serves : s.operation.Serves service pages) (accepts : s.sink.Accepts kept) (request : Request) :
    ∃ f, f.termination = .exhausted ∧
      answers s.operation service f.standing.events = pages.map .ok ∧
      ∀ turns, pages.length ≤ turns → execute s turns request .automatic service kept = some f := by
  let auto : Setting Service Request Page Context Value Kept := { s with callerPages := false }
  let start : Standing Service Request Value Kept := ⟨request, service, kept, Progress.start none, []⟩
  have begins : auto.operation.Serves start.service pages := serves
  obtain ⟨last, asked, ends⟩ := loop_served (s := auto) rfl uncapped linked begins accepts
  refine ⟨⟨last, .exhausted, none⟩, rfl, serves _ (asked.trans (Nat.zero_add _)), fun turns enough => ?_⟩
  rw [execute_eachPage mode]
  exact ends turns enough

/-- A page behind which a further request was sent names it. -/
theorem Trace.named {first : Request} {service : Service} {kept : Kept} {before turns : Nat}
    {ended : Bool} {events : List (Event Request Value)}
    (trace : Trace s first service kept before turns ended events) {k : Nat} {page : Page}
    (answered : (answers s.operation service events)[k]? = some (.ok page))
    (more : k + 1 < (answers s.operation service events).length) :
    (noneIfEmpty (CursorPage.nextCursor page)).isSome = true := by
  rw [answers_length] at more
  have earlier : (requests events)[k]? = some _ := List.getElem?_eq_getElem (by omega)
  have later : (requests events)[k + 1]? = some _ := List.getElem?_eq_getElem more
  obtain ⟨named, cursor, again, names, filled, _⟩ := trace.follows k _ _ earlier later
  cases answered.symm.trans again
  exact Option.isSome_iff_exists.mpr ⟨cursor, noneIfEmpty_eq_some_iff.mpr ⟨names, filled⟩⟩

/-- Every exhausted invocation was given a chain of pages. -/
theorem linked_of_execute {turns : Nat} {request : Request} {control : Control} {service : Service}
    {kept : Kept} {f : Finished Service Request Value Kept}
    (run : execute s turns request control service kept = some f)
    (ended : f.termination = .exhausted) :
    ∃ pages, answers s.operation service f.standing.events = pages.map .ok ∧ Linked pages := by
  have explained := explained_of_execute run
  have trace := (trace_of_execute run).2
  rw [Finished.Explained, ended] at explained
  generalize f.fault = fault at explained
  cases explained with
  | @stopped page _ last came _ told stop =>
    have final := last_of_exhausted told stop
    have whole : answers s.operation service f.standing.events = _ := map_ok_pages came
    generalize pages (answers s.operation service f.standing.events) = came at whole
    refine ⟨came, whole, .of_getElem? ?_ fun k other found => ⟨fun further => ?_, fun more => ?_⟩⟩
    · rintro rfl
      rw [whole] at last
      cases last
    · -- only the last page could come at the end, and it names no further one
      by_contra atEnd
      have bound := (List.getElem?_eq_some_iff.mp found).1
      have index : came.length - 1 = k := by omega
      have same : came.getLast? = some other := by rw [List.getLast?_eq_getElem?, index, found]
      rw [whole, List.getLast?_map, same] at last
      cases last
      simp [final] at further
    · refine trace.named (k := k) ?_ ?_
      · change (answers s.operation service f.standing.events)[k]? = _
        rw [whole, List.getElem?_map, found]
        rfl
      · change _ < (answers s.operation service f.standing.events).length
        rwa [whole, List.length_map]

end Walk

end Pager

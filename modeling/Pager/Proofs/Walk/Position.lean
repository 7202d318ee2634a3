import Pager.Proofs.Walk.Outcome

namespace Pager.Walk

variable {Service Request Page Context Value Kept : Type}

/-- The cursor behind some pages: the one named by the last of them, and in front of the first page
the one the walk starts from. -/
def cursorBehind [CursorPage Page] (initialCursor : Option String) (pages : List Page) :
    Option String :=
  match pages.getLast? with
  | none => noneIfEmpty initialCursor
  | some page => noneIfEmpty (CursorPage.nextCursor page)

section

variable [CursorPage Page]

theorem cursorBehind_of_last {initialCursor : Option String} {pages : List Page} {page : Page}
    (last : pages.getLast? = some page) :
    cursorBehind initialCursor pages = noneIfEmpty (CursorPage.nextCursor page) := by
  rw [cursorBehind, last]

theorem cursorBehind_concat (initialCursor : Option String) (pages : List Page) (page : Page) :
    cursorBehind initialCursor (pages ++ [page]) = noneIfEmpty (CursorPage.nextCursor page) :=
  cursorBehind_of_last List.getLast?_concat

theorem cursorBehind_filled (initialCursor : Option String) (pages : List Page) :
    noneIfEmpty (cursorBehind initialCursor pages) = cursorBehind initialCursor pages := by
  unfold cursorBehind
  split <;> exact noneIfEmpty_idem _

theorem hasCursor_cursorBehind (initialCursor : Option String) (pages : List Page) :
    hasCursor (cursorBehind initialCursor pages) = (cursorBehind initialCursor pages).isSome := by
  rw [← cursorBehind_filled, hasCursor_noneIfEmpty]

end

variable [CursorRequest Request] [CursorPage Page]

/-- Whether a walk stands behind the pages that came. -/
def Behind (s : Setting Service Request Page Context Value Kept) (initialCursor : Option String)
    (service : Service) (now : Standing Service Request Value Kept) : Prop :=
  now.progress.cursor = cursorBehind initialCursor (pages (answers s.operation service now.events))

/-- Where a walk is left: behind its pages, or before the last of them, if the sink refused what was
shown of it. -/
inductive Position (s : Setting Service Request Page Context Value Kept)
    (initialCursor : Option String) (sent : List Request) (came : List Page)
    (said : List (Option Fault)) (cursor : Option String) : Prop
  | behind : (s.projection.mode = .deferred ∨ ∀ verdict ∈ said, verdict = none) →
      cursor = cursorBehind initialCursor came → Position s initialCursor sent came said cursor
  | before {earlier fault} : s.projection.mode = .eachPage → said.getLast? = some (some fault) →
      sent.getLast? = some (CursorRequest.setCursor earlier cursor) →
      cursor = cursorBehind initialCursor came.dropLast →
      Position s initialCursor sent came said cursor

/-- The position of a walk that has left its loop. -/
def Finished.Positioned (s : Setting Service Request Page Context Value Kept)
    (initialCursor : Option String) (service : Service) (kept : Kept)
    (f : Finished Service Request Value Kept) : Prop :=
  Position s initialCursor (requests f.standing.events)
    (pages (answers s.operation service f.standing.events)) (verdicts s.sink kept f.standing.events)
    f.standing.progress.cursor

variable {s : Setting Service Request Page Context Value Kept} {service later : Service}
variable {kept after : Kept} {now : Standing Service Request Value Kept}
variable {initialCursor : Option String}

theorem Underway.behind_passed {page : Page} (underway : Underway s service kept now)
    (fetched : s.operation.fetch now.service now.asked = (later, .ok page)) :
    Behind s initialCursor service (now.passed later after page (s.shown page)) := by
  rw [Behind, underway.replayed.answers_passed fetched, pages_came, cursorBehind_concat]
  rfl

/-- A turn that ends a walk leaves it in its position. -/
theorem Underway.positioned {f : Finished Service Request Value Kept}
    (underway : Underway s service kept now) (behind : Behind s initialCursor service now)
    (ends : turn s now = .inl f) : f.Positioned s initialCursor service kept := by
  have step := turned s now
  rw [ends] at step
  cases step with
  | @failed later fault fetched =>
    refine .behind (.inr ?_) ?_
    · rw [underway.replayed.verdicts_sent]
      exact underway.taken
    · rw [underway.replayed.answers_sent fetched, pages_failed]
      exact behind
  | @refused later page after value fault fetched shown verdict =>
    have said : (verdicts s.sink kept (now.refused later after value fault).events).getLast? =
        some (some fault) := by
      rw [underway.replayed.verdicts_refused verdict, List.getLast?_concat]
    have asked : (requests (now.refused later after value fault).events).getLast? =
        some (CursorRequest.setCursor now.request now.progress.cursor) := by
      rw [Standing.refused, requests_append]
      exact List.getLast?_concat
    refine .before (eachPage_of_shown shown) said asked ?_
    rw [underway.replayed.answers_refused fetched, pages_came, List.dropLast_concat]
    exact behind
  | stopped fetched takes stop =>
    exact .behind (.inr (underway.passed fetched takes).taken) (underway.behind_passed fetched)

theorem Underway.loop_positioned {turns : Nat} {f : Finished Service Request Value Kept}
    (underway : Underway s service kept now) (behind : Behind s initialCursor service now)
    (ends : Walk.loop s turns now = some f) : f.Positioned s initialCursor service kept := by
  induction turns generalizing now with
  | zero => simp [Walk.loop] at ends
  | succ turns ih =>
    rw [Walk.loop] at ends
    cases step : turn s now with
    | inl finished =>
      rw [step] at ends
      cases ends
      exact underway.positioned behind step
    | inr next =>
      rw [step] at ends
      refine ih (underway.goes_on step) ?_ ends
      have turned := turned s now
      rw [step] at turned
      cases turned with
      | passed fetched _ _ => exact underway.behind_passed fetched

/-- What is offered behind the loop moves no walk. -/
theorem Finished.Positioned.finish {f : Finished Service Request Value Kept}
    (positioned : f.Positioned s initialCursor service kept) :
    (finish s f).Positioned s initialCursor service kept := by
  cases mode : s.projection.mode with
  | eachPage =>
    rw [finish_eachPage mode]
    exact positioned
  | deferred =>
    cases positioned with
    | before eachPage => simp [mode] at eachPage
    | behind _ behind =>
      refine .behind (.inl mode) ?_
      rw [cursor_finish, answers, requests_finish]
      exact behind

/-- The position in which an invocation leaves its walk. -/
theorem positioned_of_execute {turns : Nat} {request : Request} {control : Control}
    {f : Finished Service Request Value Kept}
    (run : execute s turns request control service kept = some f) :
    f.Positioned s control.initialCursor service kept := by
  obtain ⟨left, ends, rfl⟩ := Option.map_eq_some_iff.mp run
  have start : Behind { s with callerPages := control.callerPages } control.initialCursor service
      ⟨request, service, kept, Progress.start control.initialCursor, []⟩ := rfl
  have positioned := (Underway.start request control.initialCursor).loop_positioned start ends
  cases positioned.finish with
  | behind taken behind => exact .behind taken behind
  | before mode said asked behind => exact .before mode said asked behind

/-- An invocation that fetched a page tells the cursor this page names, an empty one as none, and has
more pages exactly if there is one. But if the sink refused what was shown of this page, it stands
before the page still: it tells the cursor the page was asked with, which the page before it named or
the invocation started from, and has more pages exactly if there is this one. -/
theorem execute_resumes {turns : Nat} {request : Request} {control : Control}
    {f : Finished Service Request Value Kept}
    (run : execute s turns request control service kept = some f) {page : Page}
    (last : (pages (answers s.operation service f.standing.events)).getLast? = some page) :
    ((s.projection.mode = .deferred ∨
        ∀ fault, (verdicts s.sink kept f.standing.events).getLast? ≠ some (some fault)) →
      f.outcome.resumeCursor = noneIfEmpty (CursorPage.nextCursor page) ∧
        (f.outcome.hasMore = true ↔
          ∃ cursor, CursorPage.nextCursor page = some cursor ∧ cursor ≠ "")) ∧
    ((s.projection.mode = .eachPage ∧
        ∃ fault, (verdicts s.sink kept f.standing.events).getLast? = some (some fault)) →
      f.outcome.resumeCursor = cursorBehind control.initialCursor
          (pages (answers s.operation service f.standing.events)).dropLast ∧
        f.outcome.hasMore = f.outcome.resumeCursor.isSome ∧
        ∃ earlier, (requests f.standing.events).getLast? =
          some (CursorRequest.setCursor earlier f.outcome.resumeCursor)) := by
  constructor
  · intro taken
    have named : f.outcome.resumeCursor = noneIfEmpty (CursorPage.nextCursor page) := by
      cases positioned_of_execute run with
      | behind _ behind => rw [← cursorBehind_of_last last, ← behind]; rfl
      | @before _ fault mode said =>
        rcases taken with deferred | silent
        · simp [mode] at deferred
        · exact absurd said (silent fault)
    refine ⟨named, ?_⟩
    rw [Outcome.hasMore, named, hasCursor_noneIfEmpty, Option.isSome_iff_exists]
    simp only [noneIfEmpty_eq_some_iff]
  · rintro ⟨mode, fault, said⟩
    cases positioned_of_execute run with
    | behind taken _ =>
      rcases taken with deferred | silent
      · simp [mode] at deferred
      · exact nomatch silent _ (List.mem_of_getLast? said)
    | @before earlier _ _ _ asked behind =>
      refine ⟨behind, ?_, earlier, asked⟩
      have told : f.outcome.resumeCursor = _ := behind
      rw [Outcome.hasMore, told, hasCursor_cursorBehind]

/-- A walk over the three pages to a sink that refuses its value of a number. -/
def refusing (number : Nat) :
    Setting Nat ListRequest ListPage Unit (List Json) (Sink.Refusing (List Json)) where
  operation := overThreePages.operation
  projection := overThreePages.projection
  context := ()
  sink := .refuseAt (some number) (.output "full")
  callerPages := false
  maxPages := none

/-- The second of three pages is refused; the walk stands before it, where the first page led. -/
theorem refusing_second : ∃ f,
    execute (refusing 2) 3 ⟨[], [], none, "after", .query, none⟩ .automatic 0 ⟨0, []⟩ = some f ∧
    (pages (answers (refusing 2).operation 0 f.standing.events)).getLast? =
      some (threePages (some "t1")) ∧
    (refusing 2).projection.mode = .eachPage ∧
    (verdicts (refusing 2).sink ⟨0, []⟩ f.standing.events).getLast? =
      some (some (.output "full")) ∧
    f.outcome.resumeCursor = some "t1" ∧ f.outcome.hasMore = true := by
  have run : ∃ f,
      execute (refusing 2) 3 ⟨[], [], none, "after", .query, none⟩ .automatic 0 ⟨0, []⟩ = some f ∧
      pages (answers (refusing 2).operation 0 f.standing.events) =
        [threePages none, threePages (some "t1")] ∧
      verdicts (refusing 2).sink ⟨0, []⟩ f.standing.events = [none, some (.output "full")] :=
    ⟨_, rfl, rfl, rfl⟩
  obtain ⟨f, run, came, said⟩ := run
  have last : (pages (answers (refusing 2).operation 0 f.standing.events)).getLast? =
      some (threePages (some "t1")) := by rw [came]; rfl
  have refused : (verdicts (refusing 2).sink ⟨0, []⟩ f.standing.events).getLast? =
      some (some (.output "full")) := by rw [said]; rfl
  obtain ⟨stands, more, _⟩ := (execute_resumes run last).2 ⟨rfl, _, refused⟩
  have told : f.outcome.resumeCursor = some "t1" := by
    rw [stands, came]
    rfl
  exact ⟨f, run, last, rfl, refused, told, by rw [more, told]; rfl⟩

/-- When the first page is refused, which names a further one, its cursor is not told and there seem
to be no more pages; when the last one is refused, which names none, there seem to be more. -/
theorem refusing_untold :
    (∃ f, execute (refusing 1) 3 ⟨[], [], none, "after", .query, none⟩ .automatic 0 ⟨0, []⟩ = some f ∧
      pages (answers (refusing 1).operation 0 f.standing.events) = [threePages none] ∧
      (threePages none).nextCursor = some "t1" ∧ f.outcome.pages = 1 ∧
      f.outcome.resumeCursor ≠ noneIfEmpty (threePages none).nextCursor ∧
      f.outcome.hasMore = false) ∧
    ∃ f, execute (refusing 3) 3 ⟨[], [], none, "after", .query, none⟩ .automatic 0 ⟨0, []⟩ = some f ∧
      (pages (answers (refusing 3).operation 0 f.standing.events)).getLast? =
        some (threePages (some "t2")) ∧
      (threePages (some "t2")).nextCursor = none ∧ f.outcome.pages = 3 ∧
      f.outcome.hasMore = true :=
  ⟨⟨_, rfl, rfl, rfl, rfl, nofun, rfl⟩, _, rfl, rfl, rfl, rfl, rfl⟩

end Pager.Walk

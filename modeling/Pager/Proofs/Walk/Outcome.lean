import Pager.Proofs.Walk.Account
import Pager.Proofs.Walk.Resume

namespace Pager

variable {Service Request Page Context Value Kept : Type}

/-- An outcome that tells the truth about a run with these answers of the service, where the sink
said this of the values offered. -/
structure Outcome.Truthful [CursorPage Page] (s : Setting Service Request Page Context Value Kept)
    (answered : List (Except Fault Page)) (said : List (Option Fault)) (o : Outcome) : Prop where
  faulted : o.termination = .faulted ↔ o.fault.isSome = true
  userLimited : o.termination = .userLimited ↔ o.fault = none ∧ s.callerPages = true
  exhausted : o.termination = .exhausted ↔ o.fault = none ∧ s.callerPages = false ∧
    ∃ page, (Walk.pages answered).getLast? = some page ∧
      noneIfEmpty (CursorPage.nextCursor page) = none
  pageLimit : o.termination = .pageLimit ↔ o.fault = none ∧ s.callerPages = false ∧
    (∃ page cursor, (Walk.pages answered).getLast? = some page ∧
      noneIfEmpty (CursorPage.nextCursor page) = some cursor) ∧
    ∃ cap, s.maxPages = some cap ∧ cap ≤ o.pages
  pages : o.pages = (Walk.pages answered).length
  emitted : o.emitted = said.count none
  eachPage : s.projection.mode = .eachPage → o.emitted ≤ o.pages
  deferred : s.projection.mode = .deferred → o.emitted ≤ 1
  resumable : o.resumeCursor ≠ some ""
  resumes : o.fault = none → ∃ page, (Walk.pages answered).getLast? = some page ∧
    o.resumeCursor = noneIfEmpty (CursorPage.nextCursor page)
  /-- A failed fetch is told of as the operation tells it, a refusal in the sink's own words. -/
  fault : ∀ fault, o.fault = some fault ↔
    (∃ cause, answered.getLast? = some (.error cause) ∧ fault = s.operation.normalize cause) ∨
      said.getLast? = some (some fault)
  result : (∃ fault, o.toResult = .error fault) ↔ o.termination = .faulted

theorem Outcome.toResult_eq_error_iff {o : Outcome} {fault : Fault} :
    o.toResult = .error fault ↔ o.fault = some fault := by
  unfold toResult
  cases o.fault <;> simp

namespace Walk

variable {s : Setting Service Request Page Context Value Kept}

theorem getLast?_pages {answered : List (Except Fault Page)} {page : Page}
    (last : answered.getLast? = some (.ok page)) : (pages answered).getLast? = some page := by
  obtain ⟨front, rfl⟩ := List.getLast?_eq_some_iff.mp last
  rw [pages_came, List.getLast?_concat]

variable [CursorPage Page]

/-- What a reason says of the fault that is told. -/
theorem Reason.fault_iff {answered : List (Except Fault Page)} {said : List (Option Fault)}
    {p : Progress} {termination : Termination} {told : Option Fault}
    (reason : Reason s answered said p termination told) (fault : Fault) :
    told = some fault ↔
      (∃ cause, answered.getLast? = some (.error cause) ∧ fault = s.operation.normalize cause) ∨
        said.getLast? = some (some fault) := by
  have unsaid (silent : ∀ verdict ∈ said, verdict = none) : said.getLast? ≠ some (some fault) :=
    fun last => Option.some_ne_none fault (silent _ (List.mem_of_getLast? last))
  cases reason with
  | @failed cause last silent =>
    simp [last, unsaid silent, eq_comm]
  | @refused refusal came last =>
    have unfailed : ∀ cause, answered.getLast? ≠ some (.error cause) := fun cause failed =>
      nomatch came _ (List.mem_of_getLast? failed)
    simp [last, unfailed]
  | stopped last _ silent _ _ =>
    simp [last, unsaid silent]

/-- Where a walk stopped behind a page, its end is named by the caller, the page and the cap. -/
theorem stopped_iff {p : Progress} {page : Page} {termination : Termination}
    (told : p.cursor = noneIfEmpty (CursorPage.nextCursor page))
    (stop : stop? s p = some termination) :
    termination ≠ .faulted ∧ (termination = .userLimited ↔ s.callerPages = true) ∧
      (termination = .exhausted ↔
        s.callerPages = false ∧ noneIfEmpty (CursorPage.nextCursor page) = none) ∧
      (termination = .pageLimit ↔ s.callerPages = false ∧
        (∃ cursor, noneIfEmpty (CursorPage.nextCursor page) = some cursor) ∧
        ∃ cap, s.maxPages = some cap ∧ cap ≤ p.pages) := by
  have more : p.hasMore = (noneIfEmpty (CursorPage.nextCursor page)).isSome := by
    rw [Progress.hasMore, told, hasCursor_noneIfEmpty]
  rcases stop?_eq_some stop with ⟨caller, rfl⟩ | ⟨caller, ended, rfl⟩ | ⟨caller, onward, rfl, capped⟩
  · simp [caller]
  · rw [more, Option.isSome_eq_false_iff, Option.isNone_iff_eq_none] at ended
    simp [caller, ended]
  · rw [more, Option.isSome_iff_exists] at onward
    have unfinished : noneIfEmpty (CursorPage.nextCursor page) ≠ none :=
      Option.ne_none_iff_exists'.mpr onward
    simp [caller, unfinished, onward, capped]

/-- Where the fault is told, the termination is. -/
theorem Reason.faulted_iff {answered : List (Except Fault Page)} {said : List (Option Fault)}
    {p : Progress} {termination : Termination} {told : Option Fault}
    (reason : Reason s answered said p termination told) :
    termination = .faulted ↔ told.isSome = true := by
  cases reason with
  | failed | refused => simp
  | stopped _ _ _ told stop => simpa using (stopped_iff told stop).1

/-- An account in order makes the outcome true. -/
theorem Finished.Explained.truthful {service : Service} {kept : Kept}
    {f : Finished Service Request Value Kept} (explained : f.Explained s service kept)
    (counted : Counted s service kept f.standing) :
    f.outcome.Truthful s (answers s.operation service f.standing.events)
      (verdicts s.sink kept f.standing.events) := by
  have faulted : f.outcome.termination = .faulted ↔ f.outcome.fault.isSome = true :=
    explained.faulted_iff
  have resumable : f.outcome.resumeCursor ≠ some "" := fun empty =>
    (noneIfEmpty_eq_some_iff.mp (counted.filled.trans empty)).2 rfl
  have result : (∃ fault, f.outcome.toResult = .error fault) ↔ f.outcome.termination = .faulted := by
    simp only [Outcome.toResult_eq_error_iff, faulted, Option.isSome_iff_exists]
  obtain ⟨now, termination, told⟩ := f
  cases told with
  | some fault =>
    have ended : termination = .faulted := explained.faulted_iff.mpr rfl
    subst ended
    exact ⟨faulted, by simp [outcome, Outcome.ofProgress], by simp [outcome, Outcome.ofProgress],
      by simp [outcome, Outcome.ofProgress], counted.pages, counted.emitted, counted.eachPage,
      counted.deferred, resumable, nofun, explained.fault_iff, result⟩
  | none =>
    have fault := explained.fault_iff
    cases explained with
    | @stopped page _ last _ _ told stop =>
      have final := getLast?_pages last
      obtain ⟨_, user, exhausted, capped⟩ := stopped_iff told stop
      refine ⟨faulted, ?_, ?_, ?_, counted.pages, counted.emitted, counted.eachPage,
        counted.deferred, resumable, fun _ => ⟨page, final, told⟩, fault, result⟩
      · simpa [outcome, Outcome.ofProgress] using user
      · simpa [outcome, Outcome.ofProgress, final] using exhausted
      · simpa [outcome, Outcome.ofProgress, final] using capped

variable [CursorRequest Request]

/-- The outcome of an invocation tells the truth about its run. -/
theorem execute_truthful {turns : Nat} {request : Request} {control : Control} {service : Service}
    {kept : Kept} {f : Finished Service Request Value Kept}
    (run : execute s turns request control service kept = some f) :
    f.outcome.Truthful { s with callerPages := control.callerPages }
      (answers s.operation service f.standing.events) (verdicts s.sink kept f.standing.events) := by
  obtain ⟨left, ends, rfl⟩ := Option.map_eq_some_iff.mp run
  obtain ⟨booked, explained⟩ := (Underway.start request control.initialCursor).loop ends
  obtain ⟨counted, explained⟩ := booked.finish explained
  exact explained.truthful counted

/-- A walk over at most two of three pages that names its bucket at the end, to a sink that refuses
the first value. -/
def refusedAtEnd : Setting Nat ListRequest ListPage String String (Sink.Refusing String) where
  operation := overThreePages.operation
  projection := .deferred some
  context := "photos"
  sink := .refuseAt (some 1) (.output "full")
  callerPages := false
  maxPages := some 2

/-- The refusal behind the loop takes the place of the cap, and the pages stay counted. -/
theorem refusedAtEnd_truthful :
    ∃ f, execute refusedAtEnd 2 ⟨[], [], none, "after", .query, none⟩ .automatic 0 ⟨0, []⟩ = some f ∧
      f.outcome = ⟨.faulted, 2, 0, some "t2", some (.output "full")⟩ ∧
      f.outcome.Truthful { refusedAtEnd with callerPages := false }
        (answers refusedAtEnd.operation 0 f.standing.events)
        (verdicts refusedAtEnd.sink ⟨0, []⟩ f.standing.events) := by
  have run : ∃ f, execute refusedAtEnd 2 ⟨[], [], none, "after", .query, none⟩ .automatic 0 ⟨0, []⟩ =
      some f ∧ f.outcome = ⟨.faulted, 2, 0, some "t2", some (.output "full")⟩ := ⟨_, rfl, rfl⟩
  obtain ⟨f, run, told⟩ := run
  exact ⟨f, run, told, execute_truthful run⟩

end Walk

end Pager

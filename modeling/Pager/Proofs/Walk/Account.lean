import Pager.Proofs.Walk.Log
import Pager.Proofs.Walk.Turn

namespace Pager

variable {Service Request Page Context Value Kept : Type}

namespace Walk

/-- What a sink says to the values offered among the events, one after another. -/
def verdicts (sink : Sink Kept Value) (kept : Kept) (events : List (Event Request Value)) :
    List (Option Fault) :=
  (replies sink.emit kept (offers events)).2

theorem offers_append (earlier later : List (Event Request Value)) :
    offers (earlier ++ later) = offers earlier ++ offers later :=
  List.filterMap_append

/-- The answer of a number is what the service said to the request of that number. -/
theorem answers_getElem? {operation : Operation Service Request Page} {service : Service}
    {events : List (Event Request Value)} {k : Nat} {answer : Except Fault Page}
    (answered : (answers operation service events)[k]? = some answer) :
    ∃ request, (requests events)[k]? = some request ∧
      (operation.fetch (replies operation.fetch service ((requests events).take k)).1 request).2 =
        answer := by
  rw [answers, replies_getElem?] at answered
  exact Option.map_eq_some_iff.mp answered

@[simp] theorem pages_failed (answered : List (Except Fault Page)) (fault : Fault) :
    pages (answered ++ [.error fault]) = pages answered := by
  simp [pages, Except.toOption]

@[simp] theorem pages_came (answered : List (Except Fault Page)) (page : Page) :
    pages (answered ++ [.ok page]) = pages answered ++ [page] := by
  simp [pages, Except.toOption]

theorem pages_map_ok (came : List Page) : pages (came.map .ok) = came := by
  induction came with
  | nil => rfl
  | cons page rest ih => exact congrArg (page :: ·) ih

theorem map_ok_pages {answered : List (Except Fault Page)}
    (came : ∀ answer ∈ answered, answer.isOk = true) : answered = (pages answered).map .ok := by
  induction answered with
  | nil => rfl
  | cons answer rest ih =>
    obtain ⟨first, later⟩ := List.forall_mem_cons.mp came
    cases answer with
    | error fault => cases first
    | ok page => exact congrArg (.ok page :: ·) (ih later)

theorem Takes.verdicts_emitted {s : Setting Service Request Page Context Value Kept} {kept later : Kept}
    {values : List Value} (takes : Takes s kept values later) :
    verdicts s.sink kept (values.map (.emitted : Value → Event Request Value)) =
      values.map fun _ => none := by
  rw [verdicts, offers_of_taken, takes.eq]

/-- Two logs one behind the other, the second from where the first one leads. -/
theorem Replayed.append {s : Setting Service Request Page Context Value Kept} {service : Service}
    {kept : Kept} {events more : List (Event Request Value)}
    {now later : Standing Service Request Value Kept} (first : Replayed s service kept events now)
    (second : Replayed s now.service now.kept more later) :
    Replayed s service kept (events ++ more) later := by
  refine ⟨?_, ?_⟩
  · rw [requests_append, replies_append, first.served]
    exact second.served
  · rw [offers_append, replies_append, first.offered]
    exact second.offered

theorem Replayed.verdicts_append {s : Setting Service Request Page Context Value Kept}
    {service : Service} {kept : Kept} {events more : List (Event Request Value)}
    {now : Standing Service Request Value Kept} (replayed : Replayed s service kept events now) :
    verdicts s.sink kept (events ++ more) =
      verdicts s.sink kept events ++ verdicts s.sink now.kept more := by
  simp only [verdicts, offers_append, replies_append, replayed.offered]

section

variable {s : Setting Service Request Page Context Value Kept} {service later : Service}
variable {kept after : Kept} {now : Standing Service Request Value Kept}

/-- The answers once one more request was sent. -/
theorem Replayed.answers_fetched {events tail : List (Event Request Value)}
    (replayed : Replayed s service kept events now) {request : Request} {answer : Except Fault Page}
    (fetched : s.operation.fetch now.service request = (later, answer)) (silent : requests tail = []) :
    answers s.operation service (events ++ .fetched request :: tail) =
      answers s.operation service events ++ [answer] := by
  simp only [answers, requests_append, replies_append, replayed.served, requests_fetched, silent,
    replies_cons, replies_nil, fetched]

theorem answers_taken (value : Option Value) :
    answers s.operation service (now.taken after value).events =
      answers s.operation service now.events := by
  simp only [Standing.taken, answers, requests_append, requests_of_taken, List.append_nil]

theorem Replayed.verdicts_taken {value : Option Value}
    (replayed : Replayed s service kept now.events now) (takes : Takes s now.kept value.toList after) :
    verdicts s.sink kept (now.taken after value).events =
      verdicts s.sink kept now.events ++ value.toList.map fun _ => none := by
  rw [Standing.taken, replayed.verdicts_append, takes.verdicts_emitted]

theorem answers_refusing (value : Value) (fault : Fault) :
    answers s.operation service (now.refusing after value fault).events =
      answers s.operation service now.events := by
  simp only [Standing.refusing, answers, requests_append, requests_refused, requests_nil,
    List.append_nil]

theorem Replayed.verdicts_refusing {value : Value} {fault : Fault}
    (replayed : Replayed s service kept now.events now)
    (verdict : s.sink.emit now.kept value = (after, some fault)) :
    verdicts s.sink kept (now.refusing after value fault).events =
      verdicts s.sink kept now.events ++ [some fault] := by
  rw [Standing.refusing, replayed.verdicts_append]
  simp [verdicts, verdict]

variable [CursorRequest Request]

theorem Replayed.answers_sent {answer : Except Fault Page}
    (replayed : Replayed s service kept now.events now)
    (fetched : s.operation.fetch now.service now.asked = (later, answer)) :
    answers s.operation service (now.sent later).events =
      answers s.operation service now.events ++ [answer] :=
  replayed.answers_fetched fetched requests_nil

theorem Replayed.verdicts_sent (replayed : Replayed s service kept now.events now) :
    verdicts s.sink kept (now.sent later).events = verdicts s.sink kept now.events := by
  have silent : verdicts s.sink now.kept [Event.fetched now.asked] = [] := rfl
  rw [Standing.sent, replayed.verdicts_append, silent, List.append_nil]

theorem Replayed.sent {answer : Except Fault Page} (replayed : Replayed s service kept now.events now)
    (fetched : s.operation.fetch now.service now.asked = (later, answer)) :
    Replayed s service kept (now.sent later).events (now.sent later) :=
  replayed.append ⟨congrArg Prod.fst fetched, rfl⟩

theorem Replayed.answers_refused {page : Page} {value : Value} {fault : Fault}
    (replayed : Replayed s service kept now.events now)
    (fetched : s.operation.fetch now.service now.asked = (later, .ok page)) :
    answers s.operation service (now.refused later after value fault).events =
      answers s.operation service now.events ++ [.ok page] :=
  replayed.answers_fetched fetched (requests_refused value fault [])

theorem Replayed.verdicts_refused {value : Value} {fault : Fault}
    (replayed : Replayed s service kept now.events now)
    (verdict : s.sink.emit now.kept value = (after, some fault)) :
    verdicts s.sink kept (now.refused later after value fault).events =
      verdicts s.sink kept now.events ++ [some fault] := by
  have last : verdicts s.sink now.kept [Event.fetched now.asked, .refused value fault] =
      [some fault] := by
    simp [verdicts, verdict]
  rw [Standing.refused, replayed.verdicts_append, last]

theorem Replayed.turn_refused {page : Page} {value : Value} {fault : Fault}
    (replayed : Replayed s service kept now.events now)
    (fetched : s.operation.fetch now.service now.asked = (later, .ok page))
    (verdict : s.sink.emit now.kept value = (after, some fault)) :
    Replayed s service kept (now.refused later after value fault).events
      (now.refused later after value fault) := by
  refine replayed.append ⟨congrArg Prod.fst fetched, ?_⟩
  exact congrArg Prod.fst verdict

variable [CursorPage Page]

theorem Replayed.answers_passed {page : Page} {value : Option Value}
    (replayed : Replayed s service kept now.events now)
    (fetched : s.operation.fetch now.service now.asked = (later, .ok page)) :
    answers s.operation service (now.passed later after page value).events =
      answers s.operation service now.events ++ [.ok page] :=
  replayed.answers_fetched fetched (requests_of_taken value.toList)

theorem Replayed.verdicts_passed {page : Page} {value : Option Value}
    (replayed : Replayed s service kept now.events now) (takes : Takes s now.kept value.toList after) :
    verdicts s.sink kept (now.passed later after page value).events =
      verdicts s.sink kept now.events ++ value.toList.map fun _ => none := by
  have last : verdicts s.sink now.kept (.fetched now.asked :: value.toList.map Event.emitted) =
      value.toList.map fun _ => none := takes.verdicts_emitted
  rw [Standing.passed, replayed.verdicts_append, last]

theorem Replayed.turn_passed {page : Page} (replayed : Replayed s service kept now.events now)
    (fetched : s.operation.fetch now.service now.asked = (later, .ok page))
    (takes : Takes s now.kept (s.shown page).toList after) :
    Replayed s service kept (now.passed later after page (s.shown page)).events
      (now.passed later after page (s.shown page)) := by
  have rest : Replayed s later after [] (now.passed later after page (s.shown page)) := ⟨rfl, rfl⟩
  have more := Replayed.passed fetched takes rest
  rw [List.append_nil] at more
  exact replayed.append more

end

/-- The progress of a walk counts the pages that came and the values that were taken. -/
structure Counted (s : Setting Service Request Page Context Value Kept) (service : Service)
    (kept : Kept) (now : Standing Service Request Value Kept) : Prop where
  pages : now.progress.pages = (pages (answers s.operation service now.events)).length
  emitted : now.progress.emitted = (verdicts s.sink kept now.events).count none
  eachPage : s.projection.mode = .eachPage → now.progress.emitted ≤ now.progress.pages
  deferred : s.projection.mode = .deferred → now.progress.emitted ≤ 1
  /-- The cursor is never the empty text. -/
  filled : noneIfEmpty now.progress.cursor = now.progress.cursor

/-- The same within the loop, where a projection that waits has not been asked. -/
structure Booked (s : Setting Service Request Page Context Value Kept) (service : Service)
    (kept : Kept) (now : Standing Service Request Value Kept) : Prop
    extends Counted s service kept now where
  replayed : Replayed s service kept now.events now
  waits : s.projection.mode = .deferred → now.progress.emitted = 0

/-- A walk before its next turn: nothing has failed yet. -/
structure Underway (s : Setting Service Request Page Context Value Kept) (service : Service)
    (kept : Kept) (now : Standing Service Request Value Kept) : Prop
    extends Booked s service kept now where
  came : ∀ answer ∈ answers s.operation service now.events, answer.isOk = true
  taken : ∀ verdict ∈ verdicts s.sink kept now.events, verdict = none

variable {s : Setting Service Request Page Context Value Kept} {service later : Service}
variable {kept after : Kept} {now : Standing Service Request Value Kept}

theorem Underway.start (request : Request) (initialCursor : Option String) :
    Underway s service kept ⟨request, service, kept, Progress.start initialCursor, []⟩ := by
  refine ⟨⟨⟨rfl, rfl, fun _ => Nat.le_refl 0, fun _ => Nat.zero_le 1, ?_⟩, ⟨rfl, rfl⟩,
    fun _ => rfl⟩, nofun, nofun⟩
  exact noneIfEmpty_idem initialCursor

/-- The emission behind the loop, taken. -/
theorem Booked.taken {value : Option Value} (booked : Booked s service kept now)
    (last : s.shownLast = value) (takes : Takes s now.kept value.toList after) :
    Counted s service kept (now.taken after value) := by
  have adds : (now.taken after value).progress.emitted =
      now.progress.emitted + value.toList.length := rfl
  refine ⟨?_, ?_, fun mode => ?_, fun mode => ?_, booked.filled⟩
  · rw [answers_taken, ← booked.pages]
    rfl
  · rw [booked.replayed.verdicts_taken takes, List.count_append, ← booked.emitted, adds,
      List.map_const', List.count_replicate_self]
  · have unshown : value = none := last.symm.trans (Setting.shownLast_eachPage mode)
    subst unshown
    exact booked.eachPage mode
  · have few : value.toList.length ≤ 1 := by
      cases value <;> simp
    have nothing := booked.waits mode
    omega

/-- The emission behind the loop, refused. -/
theorem Booked.refusing {value : Value} {fault : Fault} (booked : Booked s service kept now)
    (verdict : s.sink.emit now.kept value = (after, some fault)) :
    Counted s service kept (now.refusing after value fault) := by
  refine ⟨?_, ?_, booked.eachPage, booked.deferred, booked.filled⟩
  · rw [answers_refusing, ← booked.pages]
    rfl
  · rw [booked.replayed.verdicts_refusing verdict, List.count_append, ← booked.emitted]
    rfl

section

variable [CursorRequest Request]

theorem Booked.failed {fault : Fault} (booked : Booked s service kept now)
    (fetched : s.operation.fetch now.service now.asked = (later, .error fault)) :
    Booked s service kept (now.sent later) := by
  refine ⟨⟨?_, ?_, booked.eachPage, booked.deferred, booked.filled⟩, booked.replayed.sent fetched,
    booked.waits⟩
  · rw [booked.replayed.answers_sent fetched, pages_failed]
    exact booked.pages
  · rw [booked.replayed.verdicts_sent]
    exact booked.emitted

theorem Booked.refused {page : Page} {value : Value} {fault : Fault}
    (booked : Booked s service kept now)
    (fetched : s.operation.fetch now.service now.asked = (later, .ok page))
    (verdict : s.sink.emit now.kept value = (after, some fault)) :
    Booked s service kept (now.refused later after value fault) := by
  refine ⟨⟨?_, ?_, fun mode => ?_, booked.deferred, booked.filled⟩,
    booked.replayed.turn_refused fetched verdict, booked.waits⟩
  · rw [booked.replayed.answers_refused fetched, pages_came, List.length_append, ← booked.pages]
    rfl
  · rw [booked.replayed.verdicts_refused verdict, List.count_append, ← booked.emitted]
    rfl
  · exact Nat.le_succ_of_le (booked.eachPage mode)

end

variable [CursorPage Page]

/-- Why a walk is over: its last fetch failed, the sink refused its last value, or it stopped behind
a page and nothing failed. -/
inductive Reason (s : Setting Service Request Page Context Value Kept)
    (answered : List (Except Fault Page)) (said : List (Option Fault)) (p : Progress) :
    Termination → Option Fault → Prop
  | failed {cause} : answered.getLast? = some (.error cause) → (∀ verdict ∈ said, verdict = none) →
      Reason s answered said p .faulted (some (s.operation.normalize cause))
  | refused {fault} : (∀ answer ∈ answered, answer.isOk = true) →
      said.getLast? = some (some fault) → Reason s answered said p .faulted (some fault)
  | stopped {page termination} : answered.getLast? = some (.ok page) →
      (∀ answer ∈ answered, answer.isOk = true) → (∀ verdict ∈ said, verdict = none) →
      p.cursor = noneIfEmpty (CursorPage.nextCursor page) → stop? s p = some termination →
      Reason s answered said p termination none

/-- A walk that did not end in a fault ended behind a page. -/
theorem Reason.last_page {answered : List (Except Fault Page)} {said : List (Option Fault)}
    {p : Progress} {termination : Termination} {told : Option Fault}
    (reason : Reason s answered said p termination told) (ended : termination ≠ .faulted) :
    ∃ page, answered.getLast? = some (.ok page) := by
  cases reason with
  | failed | refused => exact absurd rfl ended
  | stopped last => exact ⟨_, last⟩

/-- The account of a walk that is over. -/
def Finished.Explained (s : Setting Service Request Page Context Value Kept) (service : Service)
    (kept : Kept) (f : Finished Service Request Value Kept) : Prop :=
  Reason s (answers s.operation service f.standing.events) (verdicts s.sink kept f.standing.events)
    f.standing.progress f.termination f.fault

/-- The emission behind the loop keeps the account in order, and may be the reason itself. -/
theorem Booked.finish {f : Finished Service Request Value Kept}
    (booked : Booked s service kept f.standing) (explained : f.Explained s service kept) :
    Counted s service kept (finish s f).standing ∧ (finish s f).Explained s service kept := by
  obtain ⟨now, termination, fault⟩ := f
  cases fault with
  | some fault =>
    rw [finish_faulted]
    exact ⟨booked.toCounted, explained⟩
  | none =>
    cases explained with
    | @stopped page _ last came taken told stop =>
      rcases finish_cases s now termination with
        ⟨after, takes, same⟩ | ⟨value, after, fault, _, verdict, same⟩
      · rw [same]
        refine ⟨booked.taken rfl takes, .stopped ?_ ?_ ?_ told stop⟩
        · rw [answers_taken]
          exact last
        · rw [answers_taken]
          exact came
        · rw [booked.replayed.verdicts_taken takes]
          exact List.forall_mem_append.mpr ⟨taken, by simp⟩
      · rw [same]
        refine ⟨booked.refusing verdict, .refused ?_ ?_⟩
        · rw [answers_refusing]
          exact came
        · rw [booked.replayed.verdicts_refusing verdict, List.getLast?_concat]

variable [CursorRequest Request]

/-- What a turn that goes on adds to the books: one page, and what was shown of it. -/
theorem Underway.passed {page : Page} (underway : Underway s service kept now)
    (fetched : s.operation.fetch now.service now.asked = (later, .ok page))
    (takes : Takes s now.kept (s.shown page).toList after) :
    Underway s service kept (now.passed later after page (s.shown page)) := by
  have answered : answers s.operation service (now.passed later after page (s.shown page)).events =
      answers s.operation service now.events ++ [.ok page] := underway.replayed.answers_passed fetched
  have said : verdicts s.sink kept (now.passed later after page (s.shown page)).events =
      verdicts s.sink kept now.events ++ (s.shown page).toList.map fun _ => none :=
    underway.replayed.verdicts_passed takes
  have few : (s.shown page).toList.length ≤ 1 := by
    cases s.shown page <;> simp
  have adds : (now.passed later after page (s.shown page)).progress.emitted =
      now.progress.emitted + (s.shown page).toList.length := rfl
  have grows : (now.passed later after page (s.shown page)).progress.pages =
      now.progress.pages + 1 := rfl
  refine ⟨⟨⟨?_, ?_, fun mode => ?_, fun mode => ?_, noneIfEmpty_idem _⟩,
    underway.replayed.turn_passed fetched takes, fun mode => ?_⟩, ?_, ?_⟩
  · rw [answered, pages_came, List.length_append, ← underway.pages, grows, List.length_singleton]
  · rw [said, List.count_append, ← underway.emitted, adds, List.map_const', List.count_replicate_self]
  · have bound := underway.eachPage mode
    omega
  · have nothing := underway.waits mode
    omega
  · rw [adds, underway.waits mode, Setting.shown_deferred mode]
    rfl
  · rw [answered]
    exact List.forall_mem_append.mpr ⟨underway.came, by simp [Except.isOk, Except.toBool]⟩
  · rw [said]
    exact List.forall_mem_append.mpr ⟨underway.taken, by simp⟩

/-- A turn that ends a walk leaves its books in order, with the reason in them. -/
theorem Underway.ended {f : Finished Service Request Value Kept}
    (underway : Underway s service kept now) (ends : turn s now = .inl f) :
    Booked s service kept f.standing ∧ f.Explained s service kept := by
  have step := turned s now
  rw [ends] at step
  cases step with
  | @failed later fault fetched =>
    refine ⟨underway.toBooked.failed fetched, .failed ?_ ?_⟩
    · rw [underway.replayed.answers_sent fetched, List.getLast?_concat]
    · rw [underway.replayed.verdicts_sent]
      exact underway.taken
  | @refused later page after value fault fetched _ verdict =>
    refine ⟨underway.toBooked.refused fetched verdict, .refused ?_ ?_⟩
    · rw [underway.replayed.answers_refused fetched]
      exact List.forall_mem_append.mpr ⟨underway.came, by simp [Except.isOk, Except.toBool]⟩
    · rw [underway.replayed.verdicts_refused verdict, List.getLast?_concat]
  | @stopped later page after termination fetched takes stop =>
    have next := underway.passed fetched takes
    have last : (answers s.operation service
        (now.passed later after page (s.shown page)).events).getLast? = some (.ok page) := by
      rw [underway.replayed.answers_passed fetched, List.getLast?_concat]
    exact ⟨next.toBooked, .stopped last next.came next.taken rfl stop⟩

theorem Underway.goes_on {next : Standing Service Request Value Kept}
    (underway : Underway s service kept now) (onward : turn s now = .inr next) :
    Underway s service kept next := by
  have step := turned s now
  rw [onward] at step
  cases step with
  | passed fetched takes _ => exact underway.passed fetched takes

/-- The books of a loop that has ended, and the reason in them. -/
theorem Underway.loop {turns : Nat} {f : Finished Service Request Value Kept}
    (underway : Underway s service kept now) (ends : loop s turns now = some f) :
    Booked s service kept f.standing ∧ f.Explained s service kept := by
  induction turns generalizing now with
  | zero => simp [Walk.loop] at ends
  | succ turns ih =>
    rw [Walk.loop] at ends
    cases step : turn s now with
    | inl finished =>
      rw [step] at ends
      cases ends
      exact underway.ended step
    | inr next =>
      rw [step] at ends
      exact ih (underway.goes_on step) ends

/-- The account of an invocation that is over. -/
theorem explained_of_execute {turns : Nat} {request : Request} {control : Control}
    {f : Finished Service Request Value Kept}
    (run : execute s turns request control service kept = some f) :
    f.Explained { s with callerPages := control.callerPages } service kept := by
  obtain ⟨left, ends, rfl⟩ := Option.map_eq_some_iff.mp run
  obtain ⟨booked, explained⟩ := (Underway.start request control.initialCursor).loop ends
  exact (booked.finish explained).2

/-- An invocation that did not end in a fault ended behind the page that came last. -/
theorem last_of_execute {turns : Nat} {request : Request} {control : Control}
    {f : Finished Service Request Value Kept}
    (run : execute s turns request control service kept = some f) (ended : f.termination ≠ .faulted) :
    ∃ page, (answers s.operation service f.standing.events).getLast? = some (.ok page) :=
  Reason.last_page (explained_of_execute run) ended

end Walk

end Pager

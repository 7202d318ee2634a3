import Pager.Proofs.Binding
import Pager.Proofs.Transport.Exchange
import Pager.Proofs.Walk.Account
import Pager.Transport.Listing
import Pager.Transport.Script

namespace Pager

variable {State : Type} {e : Endpoint} {t : Transport.Settings} {peer : Transport.Peer State}
variable {service : State}

open Transport

theorem Endpoint.fetch_eq (e : Endpoint) (t : Transport.Settings) (peer : Transport.Peer State)
    (service : State) (request : ListRequest) :
    (e.operation t peer).fetch service request =
      ((call peer t (callOf e request) service).service,
        (call peer t (callOf e request) service).result.bind (decodePage e)) := rfl

/-- The page of a request is decoded from the response to its call. -/
theorem Endpoint.fetch_ok {request : ListRequest} {page : ListPage}
    (fetched : ((e.operation t peer).fetch service request).2 = .ok page) :
    ∃ r, (call peer t (callOf e request) service).result = .ok r ∧ decodePage e r = .ok page :=
  Except.bind_eq_ok.mp fetched

theorem Json.lookup_null (path : String) :
    Json.null.lookup path = none ∨ Json.null.lookup path = some .null := by
  unfold Json.lookup
  cases Json.steps path with
  | nil => exact .inr rfl
  | cons part parts => exact .inl rfl

theorem ListPage.ofBody_null (cursorPath : String) (itemsPath? : Option String) :
    ListPage.ofBody .null cursorPath itemsPath? = ⟨.null, [], none⟩ := by
  have cursor : (Json.null.lookup cursorPath).bind ListPage.cursorText = none := by
    rcases Json.lookup_null cursorPath with found | found <;> rw [found] <;> rfl
  cases itemsPath? with
  | none => simp only [ListPage.ofBody, cursor]
  | some path =>
    have items : ListPage.records (Json.null.lookup path) = [] := by
      rcases Json.lookup_null path with found | found <;> rw [found] <;> rfl
    simp only [ListPage.ofBody, cursor, items]

/-- A body without text is a page without records, and the last one. -/
theorem Transport.decodePage_blank {r : Response} {text : String} (read : r.text? = some text)
    (blank : Text.trim text = "") : decodePage e r = .ok ⟨.null, [], none⟩ := by
  simp only [decodePage, read, if_pos blank, ListPage.ofBody_null]

/-- So it is behind any status but those of failures. -/
theorem Endpoint.fetch_blank {request : ListRequest} {message : Message} {r : Response} {text : String}
    (made : t.message (callOf e request) = .ok message)
    (answered : (peer.answer service message).2 = .response r) (status : isFailure r.status = false)
    (read : r.text? = some text) (blank : Text.trim text = "") :
    ((e.operation t peer).fetch service request).2 = .ok ⟨.null, [], none⟩ :=
  Except.bind_eq_ok.mpr ⟨r, call_passed made answered status, decodePage_blank read blank⟩

theorem Endpoint.decisive_fetch (decisive : peer.Decisive service) (requests : List ListRequest) :
    peer.Decisive (replies (e.operation t peer).fetch service requests).1 := by
  induction requests generalizing service with
  | nil => exact decisive
  | cons request rest ih =>
    have later := (call_called peer t (callOf e request) service).decisive decisive
    rw [replies_cons, Endpoint.fetch_eq]
    generalize call peer t (callOf e request) service = x at later ⊢
    exact ih later

variable {Context Value Kept : Type} {kept : Kept} {turns : Nat} {request : ListRequest}
variable {s : Setting State ListRequest ListPage Context Value Kept} {control : Control}
variable {f : Walk.Finished State ListRequest Value Kept}

/-- Every call over the web sends its message until a reply is final or the retries are used up, and
is told by the last reply: as the response unless its status is a failure. So is every page of a run
decoded from a response to its request that is no failure, the last page of an exhausted run too; and
from a success, unless the service answers what is neither success nor failure. Such an answer without
a text is the last page of its run, and an empty one. -/
theorem Endpoint.execute_pages (web : s.operation = e.operation t peer)
    (run : Walk.execute s turns request control service kept = some f) :
    (∀ c, Called peer t c service (call peer t c service) ∧
      ∀ r, (call peer t c service).result = .ok r →
        isFailure r.status = false ∧ (peer.Decisive service → isSuccess r.status = true)) ∧
    (∀ k page, (Walk.answers s.operation service f.standing.events)[k]? = some (.ok page) →
      ∃ sent r, (Walk.requests f.standing.events)[k]? = some sent ∧
        (call peer t (callOf e sent) (replies s.operation.fetch service
          ((Walk.requests f.standing.events).take k)).1).result = .ok r ∧
        decodePage e r = .ok page ∧ isFailure r.status = false ∧
        (peer.Decisive service → isSuccess r.status = true)) ∧
    (f.termination = .exhausted → ∃ page,
      (Walk.answers s.operation service f.standing.events).getLast? = some (.ok page)) ∧
    ∀ sent message r text now, t.message (callOf e sent) = .ok message →
      (peer.answer now message).2 = .response r → isFailure r.status = false →
      r.text? = some text → Text.trim text = "" →
      (s.operation.fetch now sent).2 = .ok ⟨.null, [], none⟩ := by
  refine ⟨fun c => ?_, fun k page answered => ?_, fun ended => ?_, ?_⟩
  · have called := call_called peer t c service
    exact ⟨called, fun r told => ⟨called.not_failure told, called.success told⟩⟩
  · obtain ⟨sent, asked, fetched⟩ := Walk.answers_getElem? answered
    rw [web] at fetched
    obtain ⟨r, told, decoded⟩ := Endpoint.fetch_ok fetched
    have called := call_called peer t (callOf e sent)
      (replies (e.operation t peer).fetch service ((Walk.requests f.standing.events).take k)).1
    rw [web]
    exact ⟨sent, r, asked, told, decoded, called.not_failure told,
      fun decisive => called.success told (Endpoint.decisive_fetch decisive _)⟩
  · exact Walk.last_of_execute run (by simp [ended])
  · intro sent message r text now made answered status read blank
    rw [web]
    exact Endpoint.fetch_blank made answered status read blank

namespace Transport

/-- A scripted service answers with what stands in its script, or that there is no more. -/
theorem Script.answer (listens : Url → Bool) (script : Script) (message : Message) :
    ((Script.peer listens).answer script message).1.replies ⊆ script.replies ∧
    ∀ r, ((Script.peer listens).answer script message).2 = .response r →
      r.status = 404 ∨ ∃ r', .response r' ∈ script.replies ∧ r.status = r'.status := by
  obtain ⟨replies, received⟩ := script
  unfold Script.peer
  dsimp only
  split
  · exact ⟨List.Subset.refl _, nofun⟩
  · split
    · refine ⟨List.Subset.refl _, fun r same => .inl ?_⟩
      cases same
      rfl
    · refine ⟨List.subset_cons_self _ _, fun r same => .inr ⟨_, List.mem_cons_self, ?_⟩⟩
      cases same
      rfl
    · rename_i reply rest other
      refine ⟨List.subset_cons_self _ _, fun r same => ?_⟩
      exact absurd same (other r)

/-- A script of successes and failures answers nothing else. -/
theorem Script.decisive {listens : Url → Bool} {script : Script}
    (told : ∀ r, .response r ∈ script.replies → isSuccess r.status = true ∨ isFailure r.status = true) :
    (Script.peer listens).Decisive script := by
  intro messages r heard
  induction messages generalizing script with
  | nil => cases heard
  | cons message rest ih =>
    obtain ⟨fewer, answered⟩ := Script.answer listens script message
    rw [replies_cons] at heard
    rcases List.mem_cons.mp heard with first | later
    · rcases answered r first.symm with spent | ⟨r', member, same⟩
      · exact .inr (by rw [spent]; rfl)
      · rw [same]
        exact told r' member
    · exact ih (fun r' member => told r' (fewer member)) later

end Transport

namespace ScriptedList

def endpoint : Endpoint :=
  ⟨"list", "http://h/p", .get, [], [], none, ⟨"after", .query, "next"⟩, none, some "items"⟩

def settings : Settings :=
  { Settings.standard with maxRetries := 1 }

/-- A walk over the pages of a scripted service, with one retry for each. -/
def setting : Setting Script ListRequest ListPage Unit (List Json) (List (List Json)) where
  operation := endpoint.operation settings (Script.peer fun _ => true)
  projection := .eachPage fun page _ => some page.items
  context := ()
  sink := .collect
  callerPages := false
  maxPages := none

/-- Trouble, and behind it the only page. -/
def mended : Script :=
  ⟨[.response ⟨503, [], none⟩, .response ⟨200, [], some (Text.toBytes "[1]")⟩], []⟩

/-- The page of the success is the one page of the run. -/
theorem mended_pages : ∃ f, setting.operation = endpoint.operation settings (Script.peer fun _ => true) ∧
    Walk.execute setting 1 endpoint.request .automatic mended [] = some f ∧
    f.outcome = ⟨.exhausted, 1, 1, none, none⟩ ∧ (Script.peer fun _ => true).Decisive mended ∧
    ∀ (k : Nat) (page : ListPage),
      (Walk.answers setting.operation mended f.standing.events)[k]? = some (.ok page) →
      ∃ r, decodePage endpoint r = .ok page ∧ isSuccess r.status = true := by
  have ran : (Walk.execute setting 1 endpoint.request .automatic mended []).map Walk.Finished.outcome =
      some ⟨.exhausted, 1, 1, none, none⟩ := by decide +kernel
  obtain ⟨f, run, outcome⟩ := Option.map_eq_some_iff.mp ran
  have decisive : (Script.peer fun _ => true).Decisive mended := by
    refine Script.decisive fun r member => ?_
    simp only [mended, List.mem_cons, List.not_mem_nil, or_false, Reply.response.injEq] at member
    rcases member with rfl | rfl
    · exact .inr rfl
    · exact .inl rfl
  refine ⟨f, rfl, run, outcome, decisive, fun k page answered => ?_⟩
  obtain ⟨_, pages, _, _⟩ := Endpoint.execute_pages rfl run
  obtain ⟨_, r, _, _, decoded, _, success⟩ := pages k page answered
  exact ⟨r, decoded, success decisive⟩

/-- An answer that nothing was changed, without a body. -/
def unchanged : Script :=
  ⟨[.response ⟨304, [], none⟩], []⟩

/-- It is told as a response and taken for an empty page, and the run is exhausted. -/
theorem unchanged_exhausted :
    (∃ r, (call (Script.peer fun _ => true) settings (callOf endpoint endpoint.request)
      unchanged).result = .ok r ∧ r.status = 304 ∧ isSuccess r.status = false) ∧
    ∃ f, Walk.execute setting 1 endpoint.request .automatic unchanged [] = some f ∧
      f.outcome = ⟨.exhausted, 1, 1, none, none⟩ ∧
      Walk.pages (Walk.answers setting.operation unchanged f.standing.events) =
        [⟨.null, [], none⟩] := by
  have told : (call (Script.peer fun _ => true) settings (callOf endpoint endpoint.request)
      unchanged).result.toOption = some ⟨304, [], some []⟩ := by decide +kernel
  have ran : (Walk.execute setting 1 endpoint.request .automatic unchanged []).map
      (fun f => (f.outcome, Walk.pages (Walk.answers setting.operation unchanged f.standing.events))) =
        some (⟨.exhausted, 1, 1, none, none⟩, [⟨.null, [], none⟩]) := by decide +kernel
  obtain ⟨f, run, same⟩ := Option.map_eq_some_iff.mp ran
  exact ⟨⟨_, Except.toOption_eq_some.mp told, rfl, rfl⟩, f, run, congrArg Prod.fst same,
    congrArg Prod.snd same⟩

end ScriptedList

end Pager

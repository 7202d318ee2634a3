import Pager.Bucket.Listing
import Pager.Proofs.Transport.Listing
import Pager.Proofs.Walk.Outcome
import Pager.Sink.JsonLines

namespace Pager

namespace Fault

/-- Telling a failed lookup as such makes no fault one of the arguments, nor does it hide one. -/
theorem isArgument_normalizeLookup (endpoint : String) (fault : Fault) :
    (fault.normalizeLookup endpoint).isArgument = fault.isArgument := by
  cases fault with
  | transport links | foreign text causes =>
    rw [normalizeLookup]
    split
    · rfl
    · rfl
  | _ => rfl

end Fault

namespace Transport

theorem ReplyResult.not_argument {s : Settings} {timeout : Delay} {attempt : Nat} {reply : Reply}
    {fault : Fault} (told : ReplyResult s timeout attempt reply (.error fault)) :
    fault.isArgument = false := by
  cases told <;> rfl

/-- A call that cannot be made into a message is told as one that cannot be sent. -/
theorem Settings.message_error {s : Settings} {c : Call} {fault : Fault}
    (unmade : s.message c = .error fault) : fault = unsendable := by
  unfold Settings.message at unmade
  dsimp only at unmade
  split at unmade
  · exact (Except.error.inj unmade).symm
  · split at unmade
    · exact (Except.error.inj unmade).symm
    · cases unmade

theorem Called.not_argument {State : Type} {peer : Peer State} {s : Settings} {c : Call}
    {service : State} {x : Exchange State} (called : Called peer s c service x) {fault : Fault}
    (failed : x.result = .error fault) : fault.isArgument = false := by
  rcases called with ⟨cause, unmade, rfl⟩ | ⟨message, _, ended⟩
  · rw [← Except.error.inj failed, Settings.message_error unmade]
    rfl
  · obtain ⟨front, last, _, _, _, told⟩ := ended.heard
    rw [failed] at told
    exact told.not_argument

theorem decodePage_not_argument {e : Endpoint} {r : Response} {fault : Fault}
    (failed : decodePage e r = .error fault) : fault.isArgument = false := by
  unfold decodePage at failed
  split at failed
  · cases failed
    rfl
  · split at failed
    · cases failed
    · split at failed
      · cases failed
      · cases failed
        rfl

end Transport

open Transport

variable {State : Type}

/-- No fault of fetching a page over the web is one of the arguments. -/
theorem Endpoint.fetch_not_argument {e : Endpoint} {t : Settings} {peer : Peer State}
    {service : State} {request : ListRequest} {fault : Fault}
    (failed : ((e.operation t peer).fetch service request).2 = .error fault) :
    fault.isArgument = false := by
  have called := call_called peer t (callOf e request) service
  rw [Endpoint.fetch_eq] at failed
  generalize call peer t (callOf e request) service = x at called failed
  cases told : x.result with
  | error cause =>
    simp only [told, Except.bind] at failed
    cases failed
    exact called.not_argument told
  | ok r =>
    simp only [told, Except.bind] at failed
    exact decodePage_not_argument failed

namespace Bucket

/-- No fault of asking a client is one of the arguments. -/
theorem fetch_not_argument {client : Client State} {now : State} {request : Request} {fault : Fault}
    (failed : ((operation client).fetch now request).2 = .error fault) : fault.isArgument = false := by
  simp only [operation] at failed
  generalize (client.list now request).2 = answer at failed
  cases answer with
  | ok listing => cases failed
  | error failure =>
    cases failed
    rfl

theorem isArgument_normalize (region : Option String) (fault : Fault) :
    (normalize region fault).isArgument = fault.isArgument := by
  rw [← Fault.isArgument_normalizeLookup (endpointName region) fault, normalize]
  cases fault.normalizeLookup (endpointName region) <;> rfl

end Bucket

namespace JsonLines

variable {layout : Layout} {w : Writer} {fault : Fault}

theorem writeDocument_not_argument {v : Json} (failed : (writeDocument layout w v).2 = some fault) :
    fault.isArgument = false := by
  unfold writeDocument at failed
  dsimp only at failed
  split at failed
  · split at failed
    · cases failed
    · cases failed
      rfl
  · cases failed
    rfl

theorem writeDocuments_not_argument {documents : List Json}
    (failed : (writeDocuments layout w documents).2 = some fault) : fault.isArgument = false := by
  induction documents generalizing w with
  | nil =>
    rw [writeDocuments] at failed
    split at failed
    · cases failed
      rfl
    · cases failed
  | cons v rest ih =>
    rw [writeDocuments] at failed
    rcases wrote : writeDocument layout w v with ⟨later, _ | cause⟩
    · rw [wrote] at failed
      exact ih failed
    · rw [wrote] at failed
      cases failed
      exact writeDocument_not_argument (congrArg Prod.snd wrote)

/-- No fault of writing a value is one of the arguments, whatever the writer takes. -/
theorem emit_not_argument {v : Json} (failed : ((sink layout).emit w v).2 = some fault) :
    fault.isArgument = false :=
  writeDocuments_not_argument failed

end JsonLines

namespace Walk

variable {Service Request Page Context Value Kept : Type}
variable [CursorRequest Request] [CursorPage Page]

/-- The fault of an invocation was told by the operation for a fault of fetching, or by the sink. -/
theorem fault_of_execute {s : Setting Service Request Page Context Value Kept} {turns : Nat}
    {request : Request} {control : Control} {service : Service} {kept : Kept}
    {f : Finished Service Request Value Kept} {fault : Fault}
    (run : execute s turns request control service kept = some f) (told : f.fault = some fault) :
    (∃ now sent cause, (s.operation.fetch now sent).2 = .error cause ∧
      s.operation.normalize cause = fault) ∨
    ∃ kept value, (s.sink.emit kept value).2 = some fault := by
  rcases ((explained_of_execute run).fault_iff fault).mp told with ⟨cause, last, rfl⟩ | last
  · obtain ⟨now, sent, answered⟩ := mem_replies (List.mem_of_getLast? last)
    exact .inl ⟨now, sent, cause, answered, rfl⟩
  · exact .inr (mem_replies (List.mem_of_getLast? last))

end Walk

end Pager

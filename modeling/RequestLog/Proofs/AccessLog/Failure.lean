import RequestLog.Proofs.AccessLog.Order

/-!
# Failed requests

An application that fails before it opened its response is answered for by a start and a piece of
body, and handing these over can fail as well. Which fault leaves the request, and which status its
error record has, depends on the outcomes of these two alone. A failure of either takes the place of
the application's fault, and a start that failed leaves no status, so that the record of a failed
request has the status of a successful one. A fault that cannot be told is neither answered for nor
recorded.
-/

namespace RequestLog

namespace Exchange

variable {x : Exchange}

theorem delivered_writeHeader_of_known
    (h : x.wroteHeader = true → x.channel.startsDelivered ≠ 0) (status : Int)
    (hKnown : Observer.wroteHeader (x.writeHeader status).2 = true) :
    (Exchange.channel (x.writeHeader status).2).startsDelivered ≠ 0 := by
  cases hStatus : Observer.isStatus status with
  | false =>
    rw [writeHeader_of_refused hStatus] at hKnown ⊢
    exact h hKnown
  | true =>
    cases hOutcome : x.channel.outcome with
    | none =>
      rw [writeHeader_of_delivered hStatus hOutcome]
      change (x.channel.send (x.startMessage status)).2.startsDelivered ≠ 0
      rw [Channel.startsDelivered_send_delivered hOutcome rfl]
      exact Nat.succ_ne_zero _
    | some fault =>
      rw [writeHeader_of_failed hStatus hOutcome] at hKnown ⊢
      rw [channel_hand, Channel.startsDelivered_send_of_some hOutcome]
      exact h hKnown

/-- As long as no body is sent, a status is known only from a start that was delivered. -/
theorem delivered_handle_of_known (h : x.wroteHeader = true → x.channel.startsDelivered ≠ 0)
    {message : Message} (hBody : message.isBody = false)
    (hKnown : (x.handle message).2.wroteHeader = true) :
    (x.handle message).2.channel.startsDelivered ≠ 0 := by
  cases message with
  | start m =>
    cases hStatus : m.status with
    | none =>
      rw [handle_start_of_none hStatus] at hKnown ⊢
      exact h hKnown
    | some status =>
      rw [handle_start_of_some hStatus] at hKnown ⊢
      exact delivered_writeHeader_of_known (x := x.stage m) h status hKnown
  | body m => cases hBody
  | other kind fields =>
    rw [startsDelivered_handle_of_not_opens rfl]
    cases kind <;> exact h hKnown

theorem delivered_run_of_known (h : x.wroteHeader = true → x.channel.startsDelivered ≠ 0)
    {app : App} (hBody : ∀ m ∈ app.messages Exchange.handle x, m.isBody = false)
    (hKnown : (app.run Exchange.handle x).state.wroteHeader = true) :
    (app.run Exchange.handle x).state.channel.startsDelivered ≠ 0 := by
  induction app generalizing x with
  | finish ending => exact h hKnown
  | send message next ih =>
    have hFirst : message.isBody = false := hBody message List.mem_cons_self
    refine ih _ (delivered_handle_of_known h hFirst) ?_ hKnown
    intro m hm
    exact hBody m (List.mem_cons_of_mem message hm)

end Exchange

namespace AccessLog

open Exchange

variable {app : App} {outcomes : Nat → Option Fault}

/-- None of the application's starts was delivered, and it sent no piece of body. -/
def Unopened (app : App) (outcomes : Nat → Option Fault) : Prop :=
  (observed app outcomes).state.channel.startsDelivered = 0 ∧
  ∀ m ∈ spoken app outcomes, m.isBody = false

theorem unopened_iff :
    Unopened app outcomes ↔ (observed app outcomes).state.wroteHeader = false := by
  constructor
  · rintro ⟨hStarts, hBody⟩
    rw [Bool.eq_false_iff]
    intro hKnown
    refine delivered_run_of_known (x := Exchange.begin outcomes) ?_ hBody hKnown hStarts
    exact fun hBegun => Bool.noConfusion hBegun
  · intro hUnknown
    refine ⟨((isOrdered_begin outcomes).run app).unknown hUnknown, ?_⟩
    intro m hMem
    rw [Bool.eq_false_iff]
    intro hBody
    have hKnown : (observed app outcomes).state.wroteHeader = true :=
      wroteHeader_run_of_body hMem hBody
    rw [hUnknown] at hKnown
    cases hKnown

/-- The outcome of the `n`-th handing over behind the application's last one. -/
def outcomeBehind (app : App) (outcomes : Nat → Option Fault) (n : Nat) : Option Fault :=
  outcomes ((observed app outcomes).state.channel.sent.length + n)

theorem outcome_observed :
    (observed app outcomes).state.channel.outcome = outcomeBehind app outcomes 0 := by
  have hOutcomes : (observed app outcomes).state.channel.outcomes = outcomes :=
    (run_sends app (Exchange.begin outcomes)).outcomes_eq
  rw [Channel.outcome, hOutcomes]
  rfl

theorem outcome_answering :
    (observed app outcomes).state.answering.channel.outcome = outcomeBehind app outcomes 1 := by
  have hOutcomes : (observed app outcomes).state.answering.channel.outcomes = outcomes :=
    (run_sends app (Exchange.begin outcomes)).outcomes_eq
  have hSent : (observed app outcomes).state.answering.channel.sent.length =
      (observed app outcomes).state.channel.sent.length + 1 := by
    change (Channel.sent (Channel.send _ _).2).length = _
    rw [Channel.sent_send, List.length_append]
    rfl
  rw [Channel.outcome, hOutcomes, hSent]
  rfl

/-- What the error response raises: the fault of its start, or else that of its body. -/
def answerFault (app : App) (outcomes : Nat → Option Fault) : Option Fault :=
  (outcomeBehind app outcomes 0).or (outcomeBehind app outcomes 1)

theorem faultOf_answer_of_unopened (h : Unopened app outcomes) :
    App.faultOf (answer (observed app outcomes).state).1 = answerFault app outcomes := by
  have hUnknown := unopened_iff.mp h
  unfold answerFault
  rw [← outcome_observed, ← outcome_answering]
  cases hOutcome : (observed app outcomes).state.channel.outcome with
  | some fault =>
    rw [answer_of_start_failed hUnknown hOutcome]
    rfl
  | none =>
    rw [answer_of_start_delivered hUnknown hOutcome, App.faultOf_map,
      faultOf_write_of_started rfl, Option.none_or]

theorem status_answer_of_unopened (h : Unopened app outcomes) :
    Observer.status (answer (observed app outcomes).state).2 =
      if outcomeBehind app outcomes 0 = none then errorStatus else Observer.impliedStatus := by
  have hUnknown := unopened_iff.mp h
  rw [← outcome_observed]
  cases hOutcome : (observed app outcomes).state.channel.outcome with
  | some fault =>
    rw [answer_of_start_failed hUnknown hOutcome, if_neg (Option.some_ne_none fault)]
    have hUnset : (observed app outcomes).state.status? = none := by
      simpa [Observer.wroteHeader] using hUnknown
    change (observed app outcomes).state.status?.getD _ = _
    rw [hUnset]
    rfl
  | none =>
    rw [answer_of_start_delivered hUnknown hOutcome, write_of_started rfl, if_pos rfl]
    rfl

variable {κ : Type} [Sink κ]

/-- A record that is made and taken leaves what was to be raised as it is. -/
theorem complete_raised {run : App.Run Exchange} {call : LogCall}
    (hCall : (conclude run).call = some call) {s : Settings} {request : Request} {clock : Clock}
    {record : LogRecord}
    (hRecord : Builder.recordFor s request (conclude run).exchange clock call = .ok record)
    {sink : κ} (hTaken : (Sink.emit (Builder.emission call) record sink).1 = .ok ()) :
    (complete s request clock run sink).raised = (conclude run).raised := by
  simp only [complete, hCall, logged, Builder.log, hRecord]
  split
  · rfl
  · next fault sink' hEmit =>
    rw [hEmit] at hTaken
    cases hTaken

/-- The fault of an application leaves its request unless its detail cannot be made or the error
response fails as well. It always does so when it is a cancellation, and if it can be told when the
response was opened before; otherwise the first fault of the error response takes its place. -/
theorem own_fault_unless_answer_fails {s : Settings} {scope : Scope} (hLogged : IsLogged s scope)
    {request : Request} (hRequest : Request.ofScope scope = .ok request) {fault : Fault}
    (hEnding : (observed app outcomes).ending = some fault) {clock : Clock} {base : AccessRecord}
    (hBuild : Builder.build s request (conclude (observed app outcomes)).exchange clock = .ok base)
    {sink : κ} (hTaken : ∀ record, (Sink.emit .error record sink).1 = .ok ()) :
    (fault.disposition = .cancelled →
      (serve s clock scope app outcomes sink).raised = some fault) ∧
    (fault.disposition = .ordinary →
      (∀ cause, fault.detail = .error cause →
        (serve s clock scope app outcomes sink).raised = some cause) ∧
      ∀ detail, fault.detail = .ok detail →
        (¬Unopened app outcomes →
          (serve s clock scope app outcomes sink).raised = some fault) ∧
        (Unopened app outcomes →
          (serve s clock scope app outcomes sink).raised =
            (answerFault app outcomes).or (some fault))) := by
  rw [serve_of_isLogged hLogged hRequest]
  constructor
  · intro hCancelled
    have hConclude := conclude_of_cancelled hEnding hCancelled
    have hCall : (conclude (observed app outcomes)).call = some (.error cancelledDetail) := by
      rw [hConclude]
    rw [complete_raised hCall (Builder.recordFor_of_build hBuild _) (hTaken _), hConclude]
  · intro hOrdinary
    refine ⟨fun cause hUntold => by rw [complete_of_untold hEnding hOrdinary hUntold], ?_⟩
    intro detail hDetail
    obtain ⟨-, hCall, hRaised⟩ := conclude_of_told hEnding hOrdinary hDetail
    rw [complete_raised hCall (Builder.recordFor_of_build hBuild _) (hTaken _), hRaised]
    constructor
    · intro hOpened
      have hKnown : (observed app outcomes).state.wroteHeader = true := by
        rwa [unopened_iff, Bool.not_eq_false] at hOpened
      rw [answer_of_known hKnown]
      rfl
    · intro hUnopened
      rw [faultOf_answer_of_unopened hUnopened]

theorem stubborn_raises_own :
    IsLogged {} plainScope ∧ Request.ofScope plainScope = .ok plainRequest ∧
    (observed stubborn resets).ending = some (.badValue "boom".toList) ∧
    ¬Unopened stubborn resets ∧
    (serve {} plainClock plainScope stubborn resets ({} : MemorySink)).raised =
      some (.badValue "boom".toList) := by
  have hEnding : (observed stubborn resets).ending = some (.badValue "boom".toList) := by rfl
  have hOpened : ¬Unopened stubborn resets := by
    rw [unopened_iff]
    decide +kernel
  obtain ⟨base, hBuild⟩ := Except.exists_ok_of_isSome
    (x := Builder.build {} plainRequest (conclude (observed stubborn resets)).exchange plainClock)
    (by decide +kernel)
  have hTaken : ∀ record, (Sink.emit .error record ({} : MemorySink)).1 = .ok () := fun _ => rfl
  obtain ⟨-, hOrdinary⟩ :=
    own_fault_unless_answer_fails isLogged_plainScope ofScope_plainScope hEnding hBuild hTaken
  obtain ⟨hOwn, -⟩ := (hOrdinary rfl).2 _ rfl
  exact ⟨isLogged_plainScope, ofScope_plainScope, hEnding, hOpened, hOwn hOpened⟩

/-- An application that fails at once. -/
def abrupt : App := .finish (some (.badValue "boom".toList))

/-- The record of the request can be made, and the fault of the application does not come out. -/
theorem abrupt_fault_replaced :
    IsLogged {} plainScope ∧ Request.ofScope plainScope = .ok plainRequest ∧
    (observed abrupt everyOtherFails).ending = some (.badValue "boom".toList) ∧
    (Fault.badValue "boom".toList).disposition = .ordinary ∧
    (∃ base, Builder.build {} plainRequest (conclude (observed abrupt everyOtherFails)).exchange
      plainClock = .ok base) ∧
    (serve {} plainClock plainScope abrupt everyOtherFails ({} : MemorySink)).raised ≠
      some (.badValue "boom".toList) := by
  refine ⟨isLogged_plainScope, ofScope_plainScope, rfl, rfl, ?_, ?_⟩
  · exact Except.exists_ok_of_isSome (by decide +kernel)
  · decide +kernel

/-- The error record of an unopened response has the status of the error response if the start of
that was delivered, and the status of a response without a start otherwise. There is none for a fault
that cannot be told. -/
theorem error_status_of_unopened {s : Settings} {scope : Scope} (hLogged : IsLogged s scope)
    {request : Request} (hRequest : Request.ofScope scope = .ok request) {fault : Fault}
    (hEnding : (observed app outcomes).ending = some fault)
    (hOrdinary : fault.disposition = .ordinary) (hUnopened : Unopened app outcomes) {clock : Clock}
    {base : AccessRecord}
    (hBuild : Builder.build s request (conclude (observed app outcomes)).exchange clock = .ok base)
    (memory : MemorySink) :
    (∀ detail, fault.detail = .ok detail → ∃ record : ErrorRecord,
      (serve s clock scope app outcomes memory).sink.errors =
        memory.errors ++ [.error record] ∧
      (serve s clock scope app outcomes memory).sink.access = memory.access ∧
      record.detail = detail ∧
      (record.status : Int) = if outcomeBehind app outcomes 0 = none then 500 else 200) ∧
    ∀ cause, fault.detail = .error cause →
      (serve s clock scope app outcomes memory).sink = memory := by
  rw [serve_of_isLogged hLogged hRequest]
  constructor
  · intro detail hDetail
    obtain ⟨hExchange, hCall, -⟩ := conclude_of_told hEnding hOrdinary hDetail
    have hRecord := Builder.recordFor_of_build hBuild (.error detail)
    have hSink : (complete s request clock (observed app outcomes) memory).sink =
        memory.keep .error (Builder.present s base (.error detail)) :=
      complete_sink hCall hRecord memory
    have hStatus : (base.status : Int) =
        Observer.status (conclude (observed app outcomes)).exchange :=
      (Builder.draft_observed (Builder.build_eq_ok_iff.mp hBuild)).1
    rw [hExchange, status_answer_of_unopened hUnopened] at hStatus
    rw [hSink]
    exact ⟨_, MemorySink.errors_keep_error _ _, MemorySink.access_keep_error _ _, rfl, hStatus⟩
  · intro cause hUntold
    rw [complete_of_untold hEnding hOrdinary hUntold]

/-- The application's start fails, the start of the error response does not, and its body does. -/
theorem faltering_recorded_as_error :
    Unopened faltering everyOtherFails ∧ answerFault faltering everyOtherFails ≠ none ∧
    ∃ record : ErrorRecord,
      (serve {} plainClock plainScope faltering everyOtherFails ({} : MemorySink)).sink.errors =
        [.error record] ∧
      record.detail = "ValueError: boom".toList ∧ (record.status : Int) = 500 := by
  have hEnding : (observed faltering everyOtherFails).ending =
      some (.badValue "boom".toList) := by rfl
  have hUnopened : Unopened faltering everyOtherFails := by
    rw [unopened_iff]
    decide +kernel
  obtain ⟨base, hBuild⟩ := Except.exists_ok_of_isSome
    (x := Builder.build {} plainRequest (conclude (observed faltering everyOtherFails)).exchange
      plainClock) (by decide +kernel)
  obtain ⟨hTold, -⟩ :=
    error_status_of_unopened isLogged_plainScope ofScope_plainScope hEnding rfl hUnopened hBuild {}
  obtain ⟨record, hErrors, -, hDetail, hStatus⟩ := hTold _ rfl
  refine ⟨hUnopened, by decide +kernel, record, hErrors, hDetail, ?_⟩
  rw [hStatus, if_pos (by decide +kernel)]

/-- The client is gone when the error response is begun, and the record tells of a success. -/
theorem abrupt_recorded_as_success :
    IsLogged {} plainScope ∧ Request.ofScope plainScope = .ok plainRequest ∧
    (observed abrupt resets).ending = some (.badValue "boom".toList) ∧
    (Fault.badValue "boom".toList).disposition = .ordinary ∧ Unopened abrupt resets ∧
    (serve {} plainClock plainScope abrupt resets ({} : MemorySink)).sink.records.map
      (fun record => record.base.status) = [200] := by
  refine ⟨isLogged_plainScope, ofScope_plainScope, rfl, rfl, ?_, ?_⟩
  · rw [unopened_iff]
    decide +kernel
  · decide +kernel

end AccessLog

end RequestLog

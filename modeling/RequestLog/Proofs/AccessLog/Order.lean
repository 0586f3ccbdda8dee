import RequestLog.Proofs.AccessLog.Once
import RequestLog.Proofs.Response.Order

/-!
# Responses in order

Starts come from the application, from the writer when a piece of body comes first, and from the
error response. What links them is that the writer has started exactly when a start was delivered,
and that the observer knows a status then. So no piece of body goes out before a delivered start,
and an application that opens a response once has at most one start delivered.
-/

namespace RequestLog

namespace Exchange

structure IsOrdered (x : Exchange) : Prop where
  order : Event.InOrder x.channel.events
  started : x.writer.started = true ↔ x.channel.startsDelivered ≠ 0
  unknown : x.wroteHeader = false → x.channel.startsDelivered = 0

variable {x : Exchange}

theorem isOrdered_begin (outcomes : Nat → Option Fault) : (begin outcomes).IsOrdered where
  order := Event.inOrder_nil
  started := by simp [begin, channel, Channel.startsDelivered]
  unknown _ := rfl

theorem IsOrdered.settle (h : x.IsOrdered) : IsOrdered x.settle :=
  ⟨h.order, h.started, fun hUnknown => Bool.noConfusion hUnknown⟩

theorem IsOrdered.stage (h : x.IsOrdered) (m : StartMessage) : (x.stage m).IsOrdered :=
  ⟨h.order, h.started, h.unknown⟩

theorem IsOrdered.headed (h : x.IsOrdered) : x.headed.IsOrdered :=
  ⟨h.order, h.started, h.unknown⟩

/-- Nothing but a delivered start changes how many starts were delivered. -/
theorem IsOrdered.hand (h : x.IsOrdered) {m : Message} (hBody : m.isBody = false)
    (hStarts : (x.channel.send m).2.startsDelivered = x.channel.startsDelivered) :
    (x.hand m).IsOrdered where
  order := Channel.inOrder_send h.order (by simp [hBody])
  started := by
    rw [channel_hand, hStarts]
    exact h.started
  unknown := by
    rw [channel_hand, hStarts]
    exact h.unknown

theorem IsOrdered.begun (h : x.IsOrdered) (hOutcome : x.channel.outcome = none) (status : Int)
    {y : Exchange} (hWriter : y.writer = (x.begun status).writer) (hKnown : y.wroteHeader = true) :
    y.IsOrdered := by
  have hChannel : y.channel = (x.channel.send (x.startMessage status)).2 :=
    congrArg ChannelWriter.channel hWriter
  have hStarts : y.channel.startsDelivered = x.channel.startsDelivered + 1 := by
    rw [hChannel, Channel.startsDelivered_send_delivered hOutcome rfl]
  refine ⟨?_, ?_, ?_⟩
  · rw [hChannel]
    exact Channel.inOrder_send h.order (fun hBody => Bool.noConfusion hBody)
  · rw [hWriter, hStarts]
    simp
  · rw [hKnown]
    exact fun hUnknown => Bool.noConfusion hUnknown

theorem IsOrdered.writeHeader (h : x.IsOrdered) (status : Int) :
    IsOrdered (x.writeHeader status).2 := by
  cases hStatus : Observer.isStatus status with
  | false =>
    rw [writeHeader_of_refused hStatus]
    exact h
  | true =>
    cases hOutcome : x.channel.outcome with
    | none =>
      rw [writeHeader_of_delivered hStatus hOutcome]
      exact h.begun hOutcome status rfl rfl
    | some fault =>
      rw [writeHeader_of_failed hStatus hOutcome]
      exact h.hand rfl (Channel.startsDelivered_send_of_some hOutcome _)

theorem IsOrdered.write_of_started (h : x.IsOrdered) (hStarted : x.writer.started = true)
    (data : Octets) (more : Bool) : IsOrdered (x.write data more).2 := by
  rw [Exchange.write_of_started hStarted]
  have hStarts : (x.channel.send (Message.bodyOf data more)).2.startsDelivered =
      x.channel.startsDelivered := Channel.startsDelivered_send_of_not_isStart rfl x.channel
  refine ⟨?_, ?_, fun hUnknown => Bool.noConfusion hUnknown⟩
  · exact Channel.inOrder_send h.order fun _ => h.started.mp hStarted
  · rw [channel_wrote, hStarts]
    exact h.started

/-- A write settles the status first, so it does not matter whether that was done before. -/
theorem write_settle (x : Exchange) (data : Octets) (more : Bool) :
    Observer.write data more x.settle = x.write data more := rfl

theorem IsOrdered.write (h : x.IsOrdered) (data : Octets) (more : Bool) :
    IsOrdered (x.write data more).2 := by
  cases hStarted : x.writer.started with
  | true => exact h.write_of_started hStarted data more
  | false =>
    cases hOutcome : x.channel.outcome with
    | none =>
      rw [← write_settle, write_of_start_delivered (x := x.settle) hStarted hOutcome]
      have hBegun : IsOrdered (Exchange.begun Observer.impliedStatus x.settle) :=
        h.settle.begun hOutcome Observer.impliedStatus rfl rfl
      exact hBegun.write_of_started rfl data more
    | some fault =>
      rw [write_of_start_failed hStarted hOutcome]
      have hHanded : IsOrdered (Exchange.hand (x.startMessage Observer.impliedStatus) x.settle) :=
        h.settle.hand rfl (Channel.startsDelivered_send_of_some hOutcome _)
      exact ⟨hHanded.order, hHanded.started, hHanded.unknown⟩

theorem IsOrdered.handle (h : x.IsOrdered) (message : Message) :
    (x.handle message).2.IsOrdered := by
  cases message with
  | start m =>
    cases hStatus : m.status with
    | none =>
      rw [handle_start_of_none hStatus]
      exact h.stage m
    | some status =>
      rw [handle_start_of_some hStatus]
      exact (h.stage m).writeHeader status
  | body m => exact h.write _ _
  | other kind fields =>
    cases kind with
    | none => exact h
    | some kind => exact h.hand rfl (Channel.startsDelivered_send_of_not_isStart rfl x.channel)

theorem IsOrdered.run (h : x.IsOrdered) (app : App) : (app.run Exchange.handle x).state.IsOrdered :=
  App.run_invariant (P := IsOrdered) (fun message _ h => h.handle message) app h

theorem startsDelivered_writeHeader_le (status : Int) (x : Exchange) :
    (Exchange.channel (x.writeHeader status).2).startsDelivered ≤
      x.channel.startsDelivered + 1 := by
  cases hStatus : Observer.isStatus status with
  | false =>
    rw [writeHeader_of_refused hStatus]
    exact Nat.le_succ _
  | true =>
    cases hOutcome : x.channel.outcome with
    | none =>
      rw [writeHeader_of_delivered hStatus hOutcome]
      exact Nat.le_of_eq (Channel.startsDelivered_send_delivered (m := x.startMessage status)
        hOutcome rfl)
    | some fault =>
      rw [writeHeader_of_failed hStatus hOutcome]
      exact Nat.le_succ_of_le (Nat.le_of_eq (Channel.startsDelivered_send_of_some hOutcome _))

theorem startsDelivered_write_of_started (hStarted : x.writer.started = true) (data : Octets)
    (more : Bool) :
    (Exchange.channel (x.write data more).2).startsDelivered = x.channel.startsDelivered := by
  rw [Exchange.write_of_started hStarted]
  exact Channel.startsDelivered_send_of_not_isStart rfl x.channel

/-- The writer sends a start of its own only as long as none was delivered. -/
theorem IsOrdered.startsDelivered_write_le (h : x.IsOrdered)
    (hSingle : x.channel.startsDelivered ≤ 1) (data : Octets) (more : Bool) :
    (Exchange.channel (x.write data more).2).startsDelivered ≤ 1 := by
  cases hStarted : x.writer.started with
  | true => rwa [startsDelivered_write_of_started hStarted]
  | false =>
    have hNone : x.channel.startsDelivered = 0 := by
      have hIff := h.started
      rw [hStarted] at hIff
      simpa using hIff
    cases hOutcome : x.channel.outcome with
    | none =>
      refine Nat.le_of_eq ?_
      rw [write_of_start_delivered hStarted hOutcome, startsDelivered_write_of_started rfl,
        channel_begun, Channel.startsDelivered_send_delivered hOutcome rfl, hNone]
    | some fault =>
      rw [write_of_start_failed hStarted hOutcome]
      exact Nat.le_trans (Nat.le_of_eq (Channel.startsDelivered_send_of_some hOutcome _)) hSingle

theorem startsDelivered_handle_of_not_opens {message : Message} (h : message.opens = false)
    (x : Exchange) : (x.handle message).2.channel.startsDelivered = x.channel.startsDelivered := by
  cases message with
  | start m => cases h
  | body m => cases h
  | other kind fields =>
    cases kind with
    | none => rfl
    | some kind => exact Channel.startsDelivered_send_of_not_isStart rfl x.channel

theorem IsOrdered.startsDelivered_handle_le (h : x.IsOrdered)
    (hSingle : x.channel.startsDelivered ≤ 1) {message : Message}
    (hStart : message.isStart = true → x.channel.startsDelivered = 0) :
    (x.handle message).2.channel.startsDelivered ≤ 1 := by
  cases message with
  | start m =>
    cases hStatus : m.status with
    | none => rwa [handle_start_of_none hStatus]
    | some status =>
      rw [handle_start_of_some hStatus]
      have hAdded := startsDelivered_writeHeader_le status (x.stage m)
      rwa [show (x.stage m).channel.startsDelivered = 0 from hStart rfl] at hAdded
  | body m => exact h.startsDelivered_write_le hSingle _ _
  | other kind fields => rwa [startsDelivered_handle_of_not_opens rfl]

/-! ## Runs -/

theorem IsOrdered.startsDelivered_run_le (h : x.IsOrdered)
    (hSingle : x.channel.startsDelivered ≤ 1) {app : App}
    (hNoStart : ∀ m ∈ app.messages Exchange.handle x, m.isStart = false) :
    (app.run Exchange.handle x).state.channel.startsDelivered ≤ 1 := by
  induction app generalizing x with
  | finish ending => exact hSingle
  | send message next ih =>
    have hFirst : message.isStart = false := hNoStart message List.mem_cons_self
    refine ih _ (h.handle message) (h.startsDelivered_handle_le hSingle ?_) ?_
    · rw [hFirst]
      exact fun hStart => Bool.noConfusion hStart
    · intro m hm
      exact hNoStart m (List.mem_cons_of_mem message hm)

end Exchange

/-- No start comes behind an earlier start or piece of body. -/
def OpensOnce (messages : List Message) : Prop :=
  messages.Pairwise fun earlier later => earlier.opens = true → later.isStart = false

namespace Exchange

variable {x : Exchange}

/-- Up to the message that opens the response no start is delivered, and behind it the application
sends none. -/
theorem IsOrdered.startsDelivered_run_of_opensOnce (h : x.IsOrdered)
    (hNone : x.channel.startsDelivered = 0) {app : App}
    (hOpens : OpensOnce (app.messages Exchange.handle x)) :
    (app.run Exchange.handle x).state.channel.startsDelivered ≤ 1 := by
  induction app generalizing x with
  | finish ending =>
    change x.channel.startsDelivered ≤ 1
    rw [hNone]
    exact Nat.zero_le 1
  | send message next ih =>
    obtain ⟨hFirst, hRest⟩ := List.pairwise_cons.mp hOpens
    cases hMessage : message.opens with
    | true =>
      have hSingle : (x.handle message).2.channel.startsDelivered ≤ 1 :=
        h.startsDelivered_handle_le (by omega) fun _ => hNone
      exact (h.handle message).startsDelivered_run_le hSingle fun m hm => hFirst m hm hMessage
    | false =>
      have hStill := (startsDelivered_handle_of_not_opens hMessage x).trans hNone
      exact ih _ (h.handle message) hStill hRest

theorem wroteHeader_write (data : Octets) (more : Bool) (x : Exchange) :
    Observer.wroteHeader (x.write data more).2 = true := rfl

theorem wroteHeader_writeHeader (h : x.wroteHeader = true) (status : Int) :
    Observer.wroteHeader (x.writeHeader status).2 = true := by
  cases hStatus : Observer.isStatus status with
  | false => rwa [writeHeader_of_refused hStatus]
  | true =>
    cases hOutcome : x.channel.outcome with
    | none =>
      rw [writeHeader_of_delivered hStatus hOutcome]
      rfl
    | some fault =>
      rw [writeHeader_of_failed hStatus hOutcome]
      exact h

theorem wroteHeader_handle (h : x.wroteHeader = true) (message : Message) :
    (x.handle message).2.wroteHeader = true := by
  cases message with
  | start m =>
    cases hStatus : m.status with
    | none =>
      rw [handle_start_of_none hStatus]
      exact h
    | some status =>
      rw [handle_start_of_some hStatus]
      exact wroteHeader_writeHeader (x := x.stage m) h status
  | body m => exact wroteHeader_write _ _ x
  | other kind fields => cases kind <;> exact h

theorem wroteHeader_run (h : x.wroteHeader = true) (app : App) :
    (app.run Exchange.handle x).state.wroteHeader = true :=
  App.run_invariant (P := fun y => Observer.wroteHeader y = true)
    (fun message _ h => wroteHeader_handle h message) app h

/-- A piece of body leaves a status behind, whether or not writing it raised. -/
theorem wroteHeader_run_of_body {app : App} {m : Message}
    (hMem : m ∈ app.messages Exchange.handle x) (hBody : m.isBody = true) :
    (app.run Exchange.handle x).state.wroteHeader = true := by
  induction app generalizing x with
  | finish ending => cases hMem
  | send message next ih =>
    rcases List.mem_cons.mp hMem with rfl | hMem
    · have hKnown : (x.handle m).2.wroteHeader = true := by
        cases m with
        | body b => exact wroteHeader_write _ _ x
        | start b => cases hBody
        | other kind fields => cases hBody
      exact wroteHeader_run hKnown _
    · exact ih _ hMem

end Exchange

namespace AccessLog

open Exchange

variable {x : Exchange}

theorem isOrdered_answering (h : x.IsOrdered) (hOutcome : x.channel.outcome = none) :
    x.answering.IsOrdered :=
  h.headed.begun hOutcome errorStatus rfl rfl

theorem isOrdered_answer (h : x.IsOrdered) : (answer x).2.IsOrdered := by
  cases hKnown : x.wroteHeader with
  | true =>
    rw [answer_of_known hKnown]
    exact h
  | false =>
    cases hOutcome : x.channel.outcome with
    | some fault =>
      rw [answer_of_start_failed hKnown hOutcome]
      exact h.headed.hand rfl (Channel.startsDelivered_send_of_some hOutcome _)
    | none =>
      rw [answer_of_start_delivered hKnown hOutcome]
      exact (isOrdered_answering h hOutcome).write errorBody false

/-- The error response has a start of its own only if none was delivered. -/
theorem startsDelivered_answer_le (h : x.IsOrdered) (hSingle : x.channel.startsDelivered ≤ 1) :
    (answer x).2.channel.startsDelivered ≤ 1 := by
  cases hKnown : x.wroteHeader with
  | true => rwa [answer_of_known hKnown]
  | false =>
    have hNone := h.unknown hKnown
    cases hOutcome : x.channel.outcome with
    | some fault =>
      rw [answer_of_start_failed hKnown hOutcome]
      exact Nat.le_trans (Nat.le_of_eq (Channel.startsDelivered_send_of_some hOutcome _)) hSingle
    | none =>
      rw [answer_of_start_delivered hKnown hOutcome]
      have hStart : x.answering.channel.startsDelivered = x.channel.startsDelivered + 1 :=
        Channel.startsDelivered_send_delivered hOutcome rfl
      refine Nat.le_of_eq ?_
      rw [startsDelivered_write_of_started rfl, hStart, hNone]

/-- What an application sends while it is observed. -/
def spoken (app : App) (outcomes : Nat → Option Fault) : List Message :=
  app.messages Exchange.handle (Exchange.begin outcomes)

variable {κ : Type} [Sink κ]

/-- Whatever is sent and whatever fails, no body is handed over before a delivered start, and an
application that opens its response once has one start delivered at most. Only an application none
of whose starts was delivered, and that sent no body, is answered for. A logged request hands over
what this run does and nothing else. -/
theorem response_in_order (app : App) (outcomes : Nat → Option Fault) :
    Event.InOrder (conclude (observed app outcomes)).exchange.channel.events ∧
    (OpensOnce (spoken app outcomes) →
      (conclude (observed app outcomes)).exchange.channel.startsDelivered ≤ 1) ∧
    ((conclude (observed app outcomes)).exchange.channel.events ≠
        (observed app outcomes).state.channel.events →
      (observed app outcomes).state.channel.startsDelivered = 0 ∧
      ∀ m ∈ spoken app outcomes, m.isBody = false) ∧
    ∀ (s : Settings) (clock : Clock) (scope : Scope) (request : Request) (sink : κ),
      IsLogged s scope → Request.ofScope scope = .ok request →
      ∃ calls : List LogCall, (serve s clock scope app outcomes sink).channel.events =
        (conclude (observed app outcomes)).exchange.channel.events ++ calls.map .logged := by
  have hRun : (observed app outcomes).state.IsOrdered := (isOrdered_begin outcomes).run app
  have hEnd := conclude_exchange (observed app outcomes)
  refine ⟨?_, ?_, ?_, ?_⟩
  · rcases hEnd with hEnd | hEnd
    · rw [hEnd]
      exact hRun.order
    · rw [hEnd]
      exact (isOrdered_answer hRun).order
  · intro hOpens
    have hSingle : (observed app outcomes).state.channel.startsDelivered ≤ 1 :=
      (isOrdered_begin outcomes).startsDelivered_run_of_opensOnce rfl hOpens
    rcases hEnd with hEnd | hEnd
    · rwa [hEnd]
    · rw [hEnd]
      exact startsDelivered_answer_le hRun hSingle
  · intro hAnswered
    have hUnknown : (observed app outcomes).state.wroteHeader = false := by
      rw [Bool.eq_false_iff]
      intro hKnown
      rcases hEnd with hEnd | hEnd
      · exact hAnswered (by rw [hEnd])
      · exact hAnswered (by rw [hEnd, answer_of_known hKnown])
    refine ⟨hRun.unknown hUnknown, ?_⟩
    intro m hMem
    rw [Bool.eq_false_iff]
    intro hBody
    have hKnown : (observed app outcomes).state.wroteHeader = true :=
      wroteHeader_run_of_body hMem hBody
    rw [hUnknown] at hKnown
    cases hKnown
  · intro s clock scope request sink hLogged hRequest
    rw [serve_of_isLogged hLogged hRequest]
    exact complete_handed s request clock (observed app outcomes) sink

/-- A start behind a message of another kind, and a fault in the end. -/
def faltering : App :=
  .send (.other (some "http.response.push".toList) []) fun _ =>
    .send (.start { status := some 201 }) fun _ => .finish (some (.badValue "boom".toList))

def everyOtherFails (n : Nat) : Option Fault :=
  if n % 2 = 1 then some (.raised (.system .connectionReset) [] none) else none

/-- The application's start fails, and so does the body of the error response behind its start. -/
theorem faltering_in_order :
    OpensOnce (spoken faltering everyOtherFails) ∧
    (conclude (observed faltering everyOtherFails)).exchange.channel.startsDelivered ≤ 1 ∧
    (observed faltering everyOtherFails).state.channel.startsDelivered = 0 ∧
    IsLogged {} plainScope ∧ Request.ofScope plainScope = .ok plainRequest ∧
    ∃ calls : List LogCall,
      (serve {} plainClock plainScope faltering everyOtherFails ({} : MemorySink)).channel.events =
        (conclude (observed faltering everyOtherFails)).exchange.channel.events ++
          calls.map .logged := by
  have hOpens : OpensOnce (spoken faltering everyOtherFails) := by
    simp [spoken, App.messages, faltering, OpensOnce, Message.opens, Message.isStart,
      Message.isBody]
  have hAnswered : (conclude (observed faltering everyOtherFails)).exchange.channel.events ≠
      (observed faltering everyOtherFails).state.channel.events := by
    decide +kernel
  obtain ⟨-, hSingle, hFallback, hServed⟩ :=
    response_in_order (κ := MemorySink) faltering everyOtherFails
  exact ⟨hOpens, hSingle hOpens, (hFallback hAnswered).1, isLogged_plainScope, ofScope_plainScope,
    hServed {} plainClock plainScope plainRequest {} isLogged_plainScope ofScope_plainScope⟩

end AccessLog

end RequestLog

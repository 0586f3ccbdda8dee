import RequestLog.Proofs.AccessLog.Once

/-!
# Records and the wire

The observer keeps a status and a size of its own beside what the channel has seen. Both agree with
the channel after every operation: the status is that of the last start that was delivered, and the
size is the number of octets delivered and of those that failed writes report. The link between the
two is that a writer that has not started has delivered no start.
-/

namespace RequestLog

def Message.bodyFaults (message : Message) (result : Except Fault Unit) : List Fault :=
  match message with
  | .body _ => (App.faultOf result).toList
  | _ => []

/-- What the pieces of body raised that an application sends, as the application learned it. -/
def App.bodyFaults : App → Exchange → List Fault
  | .finish _, _ => []
  | .send message next, x =>
    message.bodyFaults (x.handle message).1 ++
      (next (App.faultOf (x.handle message).1)).bodyFaults (x.handle message).2

/-- The octets of body that faults of writes report as written. -/
def octetsReported (faults : List Fault) : Int :=
  faults.foldl (fun n fault => n + fault.octetsWritten) 0

@[simp] theorem octetsReported_concat (faults : List Fault) (fault : Fault) :
    octetsReported (faults ++ [fault]) = octetsReported faults + fault.octetsWritten := by
  simp [octetsReported]

namespace Exchange

/-- The exchange agrees with its channel after the given faults of writes. -/
structure Agrees (faults : List Fault) (x : Exchange) : Prop where
  status : x.status = x.channel.lastStatus
  started : x.writer.started = false → x.channel.startStatuses = []
  size : x.size = x.channel.deliveredOctets + octetsReported faults

variable {faults : List Fault} {x : Exchange}

theorem Agrees.begin (outcomes : Nat → Option Fault) : Agrees [] (Exchange.begin outcomes) where
  status := rfl
  started _ := rfl
  size := rfl

theorem Agrees.stage (h : Agrees faults x) (m : StartMessage) : Agrees faults (x.stage m) :=
  ⟨h.status, h.started, h.size⟩

theorem Agrees.headed (h : Agrees faults x) : Agrees faults x.headed :=
  ⟨h.status, h.started, h.size⟩

theorem Agrees.settle (h : Agrees faults x) : Agrees faults x.settle :=
  ⟨h.status, h.started, h.size⟩

/-- Neither a message of another kind nor a failed start changes what the wire shows. -/
theorem Agrees.hand (h : Agrees faults x) {m : Message}
    (hStatuses : (x.channel.send m).2.startStatuses = x.channel.startStatuses)
    (hLength : m.bodyLength = 0) : Agrees faults (x.hand m) where
  status := by
    rw [channel_hand, Channel.lastStatus_congr hStatuses]
    exact h.status
  started hStarted := hStatuses.trans (h.started hStarted)
  size := by
    rw [channel_hand, Channel.deliveredOctets_send_of_zero hLength]
    exact h.size

theorem Agrees.hand_start_failed (h : Agrees faults x) {fault : Fault}
    (hOutcome : x.channel.outcome = some fault) (status : Int) :
    Agrees faults (x.hand (x.startMessage status)) :=
  h.hand (Channel.startStatuses_send_failed hOutcome _) rfl

theorem Agrees.begun (h : Agrees faults x) (hOutcome : x.channel.outcome = none) (status : Int) :
    Agrees faults { x.begun status with status? := some status } where
  status := (Channel.lastStatus_send_delivered hOutcome rfl).symm
  started hStarted := Bool.noConfusion hStarted
  size := by
    change x.size = ((x.channel.send (x.startMessage status)).2.deliveredOctets : Int) + _
    rw [Channel.deliveredOctets_send_of_zero rfl]
    exact h.size

/-- The observer expects no other status than the one the writer implies. -/
theorem Agrees.implied (h : Agrees faults x) (hStarted : x.writer.started = false)
    (hOutcome : x.channel.outcome = none) : Agrees faults (x.begun Observer.impliedStatus) where
  status := by
    have hStatus : x.status = Observer.impliedStatus :=
      h.status.trans (Channel.lastStatus_of_nil (h.started hStarted))
    rw [channel_begun, Channel.lastStatus_send_delivered hOutcome (startStatus?_startMessage _ _)]
    exact hStatus
  started hStarted := Bool.noConfusion hStarted
  size := (h.begun hOutcome Observer.impliedStatus).size

theorem Agrees.writeHeader (h : Agrees faults x) (status : Int) :
    Agrees faults (x.writeHeader status).2 := by
  cases hStatus : Observer.isStatus status with
  | false =>
    rw [writeHeader_of_refused hStatus]
    exact h
  | true =>
    cases hOutcome : x.channel.outcome with
    | none =>
      rw [writeHeader_of_delivered hStatus hOutcome]
      exact h.begun hOutcome status
    | some fault =>
      rw [writeHeader_of_failed hStatus hOutcome]
      exact h.hand_start_failed hOutcome status

theorem Agrees.write_of_started (h : Agrees faults x) (hStarted : x.writer.started = true)
    (data : Octets) (more : Bool) :
    Agrees (faults ++ (App.faultOf (x.write data more).1).toList) (x.write data more).2 := by
  rw [Exchange.write_of_started hStarted]
  have hStatuses : (x.channel.send (Message.bodyOf data more)).2.startStatuses =
      x.channel.startStatuses := Channel.startStatuses_send_of_none rfl x.channel
  refine ⟨?_, fun (hNot : x.writer.started = false) => ?_, ?_⟩
  · rw [channel_wrote, Channel.lastStatus_congr hStatuses]
    exact h.status
  · rw [hStarted] at hNot
    cases hNot
  · cases hOutcome : x.channel.outcome with
    | none =>
      rw [channel_wrote, Channel.deliveredOctets_send_delivered hOutcome]
      change x.size + (data.length : Int) = _
      rw [h.size]
      simp [Channel.answer, App.faultOf, Except.map, Message.bodyOf, Message.bodyLength]
      omega
    | some fault =>
      rw [channel_wrote, Channel.deliveredOctets_send_failed hOutcome]
      change x.size + fault.octetsWritten = _
      rw [h.size]
      simp [Channel.answer, App.faultOf, Except.map]
      omega

theorem Agrees.write (h : Agrees faults x) (data : Octets) (more : Bool) :
    Agrees (faults ++ (App.faultOf (x.write data more).1).toList) (x.write data more).2 := by
  cases hStarted : x.writer.started with
  | true => exact h.write_of_started hStarted data more
  | false =>
    cases hOutcome : x.channel.outcome with
    | none =>
      rw [write_of_start_delivered hStarted hOutcome]
      exact (h.implied hStarted hOutcome).write_of_started rfl data more
    | some fault =>
      rw [write_of_start_failed hStarted hOutcome]
      have hHanded := h.settle.hand_start_failed hOutcome Observer.impliedStatus
      refine ⟨hHanded.status, hHanded.started, ?_⟩
      change x.size + fault.octetsWritten =
        ((x.channel.send (x.startMessage Observer.impliedStatus)).2.deliveredOctets : Int) + _
      rw [Channel.deliveredOctets_send_failed hOutcome, h.size]
      simp [App.faultOf]
      omega

theorem Agrees.handle (h : Agrees faults x) (message : Message) :
    Agrees (faults ++ message.bodyFaults (x.handle message).1) (x.handle message).2 := by
  cases message with
  | start m =>
    simp only [Message.bodyFaults, List.append_nil]
    cases hStatus : m.status with
    | none =>
      rw [handle_start_of_none hStatus]
      exact h.stage m
    | some status =>
      rw [handle_start_of_some hStatus]
      exact (h.stage m).writeHeader status
  | body m =>
    have hFault : App.faultOf (x.handle (.body m)).1 =
        App.faultOf (x.write (m.body.getD []) (m.more.getD false)).1 := by
      simp only [Exchange.handle, sendBody]
      cases (x.write (m.body.getD []) (m.more.getD false)).1 <;> rfl
    rw [Message.bodyFaults, hFault]
    exact h.write (m.body.getD []) (m.more.getD false)
  | other kind fields =>
    simp only [Message.bodyFaults, List.append_nil]
    cases kind with
    | none => exact h
    | some kind => exact h.hand (Channel.startStatuses_send_of_none rfl x.channel) rfl

theorem Agrees.run (h : Agrees faults x) (app : App) :
    Agrees (faults ++ app.bodyFaults x) (app.run Exchange.handle x).state := by
  induction app generalizing faults x with
  | finish ending =>
    rw [App.bodyFaults, List.append_nil]
    exact h
  | send message next ih =>
    rw [App.bodyFaults, ← List.append_assoc]
    exact ih _ (h.handle message)

end Exchange

namespace AccessLog

open Exchange

/-- What the pieces of body raised that were handed over between two states of a channel. -/
def bodyFaultsBetween (c d : Channel) : List Fault :=
  (d.events.drop c.events.length).filterMap Event.bodyFault?

theorem bodyFaultsBetween_self (c : Channel) : bodyFaultsBetween c c = [] := by
  simp [bodyFaultsBetween]

theorem bodyFaultsBetween_send (c : Channel) (m : Message) :
    bodyFaultsBetween c (c.send m).2 = [Event.handed m c.outcome].filterMap Event.bodyFault? := by
  simp [bodyFaultsBetween, Channel.send, Channel.record]

theorem bodyFaultsBetween_send_send (c : Channel) (m₁ m₂ : Message) :
    bodyFaultsBetween c ((c.send m₁).2.send m₂).2 =
      [Event.handed m₁ c.outcome, .handed m₂ (c.send m₁).2.outcome].filterMap
        Event.bodyFault? := by
  simp [bodyFaultsBetween, Channel.send, Channel.record]

/-- The error response writes its body only behind a start of its own, so every fault of that write
stands on the channel. -/
theorem answer_agrees {faults : List Fault} {x : Exchange} (h : Agrees faults x) :
    Agrees (faults ++ bodyFaultsBetween x.channel (answer x).2.channel) (answer x).2 := by
  cases hKnown : x.wroteHeader with
  | true =>
    rw [answer_of_known hKnown, bodyFaultsBetween_self, List.append_nil]
    exact h
  | false =>
    cases hOutcome : x.channel.outcome with
    | some fault =>
      rw [answer_of_start_failed hKnown hOutcome]
      simp only [channel_hand, channel_headed, bodyFaultsBetween_send]
      change Agrees (faults ++ []) _
      rw [List.append_nil]
      exact h.headed.hand_start_failed hOutcome errorStatus
    | none =>
      have hWrite := (h.headed.begun hOutcome errorStatus).write_of_started rfl errorBody false
      rw [answer_of_start_delivered hKnown hOutcome]
      have hFaults : bodyFaultsBetween x.channel
          (Exchange.channel (x.answering.write errorBody false).2) =
          (App.faultOf (x.answering.write errorBody false).1).toList := by
        rw [faultOf_write_of_started rfl, Exchange.write_of_started rfl, channel_wrote]
        change bodyFaultsBetween x.channel ((x.channel.send _).2.send _).2 = _
        rw [bodyFaultsBetween_send_send]
        cases hBody : x.answering.channel.outcome <;> exact hBody ▸ rfl
      simp only [hFaults]
      exact hWrite

/-- All that pieces of body raised in a request, those of the error response last. -/
def bodyFaults (app : App) (outcomes : Nat → Option Fault) : List Fault :=
  app.bodyFaults (Exchange.begin outcomes) ++
    bodyFaultsBetween (observed app outcomes).state.channel
      (conclude (observed app outcomes)).exchange.channel

theorem conclude_agrees (app : App) (outcomes : Nat → Option Fault) :
    Agrees (bodyFaults app outcomes) (conclude (observed app outcomes)).exchange := by
  have hRun : Agrees (app.bodyFaults (Exchange.begin outcomes)) (observed app outcomes).state :=
    (Agrees.begin outcomes).run app
  unfold bodyFaults
  rcases conclude_exchange (observed app outcomes) with hEnd | hEnd
  · rw [hEnd, bodyFaultsBetween_self, List.append_nil]
    exact hRun
  · rw [hEnd]
    exact answer_agrees hRun

theorem complete_agrees (s : Settings) (request : Request) (clock : Clock) (app : App)
    (outcomes : Nat → Option Fault) {κ : Type} [Sink κ] (sink : κ) :
    let report := complete s request clock (observed app outcomes) sink
    (conclude (observed app outcomes)).exchange.status = report.channel.lastStatus ∧
    (conclude (observed app outcomes)).exchange.size =
      report.channel.deliveredOctets + octetsReported (bodyFaults app outcomes) := by
  intro report
  have hAgrees := conclude_agrees app outcomes
  have hDelivered := complete_delivered s request clock (observed app outcomes) sink
  rw [Channel.lastStatus_of_delivered hDelivered, Channel.deliveredOctets_of_delivered hDelivered]
  exact ⟨hAgrees.status, hAgrees.size⟩

/-- The status and the size that the record of a logged request is given are those of the wire. If
the record can be built and the ending told, the sink has it besides; and whatever else a request
does, no record comes to the sink that differs from the wire. -/
theorem record_agrees_with_wire (s : Settings) (clock : Clock) (scope : Scope) (app : App)
    (outcomes : Nat → Option Fault) (memory : MemorySink) :
    let report := serve s clock scope app outcomes memory
    (∀ request, IsLogged s scope → Request.ofScope scope = .ok request →
      (∀ draft,
        Builder.draft s request (conclude (observed app outcomes)).exchange clock = .ok draft →
        draft.status = report.channel.lastStatus ∧
        draft.size =
          report.channel.deliveredOctets + octetsReported (bodyFaults app outcomes)) ∧
      ((∀ fault, (observed app outcomes).ending = some fault → IsTold fault) →
        ∀ base,
          Builder.build s request (conclude (observed app outcomes)).exchange clock = .ok base →
          ∃ record, record.base = base ∧
            (report.sink.access = memory.access ++ [record] ∧
                report.sink.errors = memory.errors ∨
              report.sink.access = memory.access ∧
                report.sink.errors = memory.errors ++ [record]) ∧
            record.base.status = report.channel.lastStatus ∧
            record.base.size =
              report.channel.deliveredOctets + octetsReported (bodyFaults app outcomes))) ∧
    ∀ record ∈ report.sink.records, record ∈ memory.records ∨
      (record.base.status = report.channel.lastStatus ∧
        record.base.size =
          report.channel.deliveredOctets + octetsReported (bodyFaults app outcomes)) := by
  intro report
  constructor
  · intro request hLogged hRequest
    have hReport : report = complete s request clock (observed app outcomes) memory :=
      serve_of_isLogged hLogged hRequest clock app outcomes memory
    obtain ⟨hStatus, hSize⟩ := complete_agrees s request clock app outcomes memory
    rw [hReport]
    constructor
    · intro draft hDraft
      obtain ⟨hDraftStatus, hDraftSize⟩ := Builder.draft_observed hDraft
      exact ⟨hDraftStatus.trans hStatus, hDraftSize.trans hSize⟩
    · intro hTold base hBuild
      obtain ⟨call, hCall, -⟩ := conclude_call hTold
      have hRecord := Builder.recordFor_of_build hBuild call
      obtain ⟨hRecordStatus, hRecordSize⟩ := Builder.recordFor_observed hRecord
      refine ⟨_, Builder.base_present s base call, ?_, hRecordStatus.trans hStatus,
        hRecordSize.trans hSize⟩
      rw [complete_sink hCall hRecord]
      exact memory.keep_cases _ _
  · intro record hMem
    rcases serve_cases s clock scope app outcomes memory with hSink | ⟨request, hServe⟩
    · exact Or.inl (hSink ▸ hMem)
    · have hReport : report = complete s request clock (observed app outcomes) memory := hServe
      obtain ⟨hStatus, hSize⟩ := complete_agrees s request clock app outcomes memory
      rw [hReport] at hMem ⊢
      rcases complete_memory s request clock (observed app outcomes) memory with
        hSink | ⟨call, made, hRecord, hSink⟩
      · exact Or.inl (hSink ▸ hMem)
      · rw [hSink, (memory.records_keep_perm _ _).mem_iff] at hMem
        rcases List.mem_cons.mp hMem with rfl | hBefore
        · obtain ⟨hRecordStatus, hRecordSize⟩ := Builder.recordFor_observed hRecord
          exact Or.inr ⟨hRecordStatus.trans hStatus, hRecordSize.trans hSize⟩
        · exact Or.inl hBefore

def interrupted : App :=
  .send (.start { status := some 201 }) fun _ =>
    .send (.body { body := some [104, 101, 108, 108, 111], more := some true }) fun _ =>
      .send (.body { body := some [119, 111, 114, 108, 100] }) fun _ => .finish none

def breaksOff (n : Nat) : Option Fault :=
  if n = 2 then some (.raised (.system .brokenPipe) [] (some 3)) else none

theorem interrupted_record_agrees :
    IsLogged {} plainScope ∧ Request.ofScope plainScope = .ok plainRequest ∧
    (observed interrupted breaksOff).ending = none ∧
    ∃ record,
      (serve {} plainClock plainScope interrupted breaksOff ({} : MemorySink)).sink.records =
        [record] ∧
      (record.base.status : Int) = 201 ∧ (record.base.size : Int) = 5 + 3 := by
  have hReturned : (observed interrupted breaksOff).ending = none := rfl
  have hTold (fault : Fault) (h : (observed interrupted breaksOff).ending = some fault) :
      IsTold fault := by
    rw [hReturned] at h
    cases h
  obtain ⟨base, hBuild⟩ := Except.exists_ok_of_isSome
    (x := Builder.build {} plainRequest (conclude (observed interrupted breaksOff)).exchange
      plainClock) (by decide +kernel)
  obtain ⟨-, hRecorded⟩ := (record_agrees_with_wire {} plainClock plainScope interrupted
    breaksOff {}).1 plainRequest isLogged_plainScope ofScope_plainScope
  obtain ⟨record, -, hKept, hStatus, hSize⟩ := hRecorded hTold base hBuild
  refine ⟨isLogged_plainScope, ofScope_plainScope, hReturned, record, ?_, hStatus.trans ?_,
    hSize.trans ?_⟩
  · rcases hKept with ⟨hAccess, hErrors⟩ | ⟨hAccess, hErrors⟩ <;>
      rw [MemorySink.records, hAccess, hErrors] <;> rfl
  · decide +kernel
  · decide +kernel

end AccessLog

end RequestLog

import RequestLog.Proofs.AccessLog.Course

/-!
# Status and size in range

The status of an exchange is one that a record can have, whatever is sent: it is 200 or has been
checked. The size cannot become negative unless a failed write reports a negative number of octets,
which a channel without faults never does.
-/

namespace RequestLog.Exchange

variable {x : Exchange}

structure InRange (x : Exchange) : Prop where
  status : 100 ≤ x.status ∧ x.status ≤ 599
  size : 0 ≤ x.size
  outcomes : ∀ n fault, x.channel.outcomes n = some fault → 0 ≤ fault.octetsWritten

theorem inRange_begin {outcomes : Nat → Option Fault}
    (h : ∀ n fault, outcomes n = some fault → 0 ≤ fault.octetsWritten) :
    (begin outcomes).InRange where
  status := ⟨by change (100 : Int) ≤ 200; decide, by change (200 : Int) ≤ 599; decide⟩
  size := Int.le_refl 0
  outcomes := h

theorem InRange.hand (h : x.InRange) (message : Message) : (x.hand message).InRange :=
  ⟨h.status, h.size, h.outcomes⟩

theorem InRange.writeHeader (h : x.InRange) (status : Int) :
    InRange (x.writeHeader status).2 := by
  cases hStatus : Observer.isStatus status with
  | false =>
    rw [writeHeader_of_refused hStatus]
    exact h
  | true =>
    cases hOutcome : x.channel.outcome with
    | none =>
      rw [writeHeader_of_delivered hStatus hOutcome]
      exact ⟨Observer.isStatus_iff.mp hStatus, h.size, h.outcomes⟩
    | some fault =>
      rw [writeHeader_of_failed hStatus hOutcome]
      exact h.hand _

theorem InRange.write_of_started (h : x.InRange) (hStarted : x.writer.started = true)
    (data : Octets) (more : Bool) : InRange (x.write data more).2 := by
  rw [Exchange.write_of_started hStarted]
  refine ⟨h.status, ?_, h.outcomes⟩
  have hSize := h.size
  cases hOutcome : x.channel.outcome with
  | none =>
    change 0 ≤ x.size + (data.length : Int)
    omega
  | some fault =>
    have hReported := h.outcomes _ fault hOutcome
    change 0 ≤ x.size + fault.octetsWritten
    omega

theorem InRange.write (h : x.InRange) (data : Octets) (more : Bool) :
    InRange (x.write data more).2 := by
  cases hStarted : x.writer.started with
  | true => exact h.write_of_started hStarted data more
  | false =>
    cases hOutcome : x.channel.outcome with
    | none =>
      rw [write_of_start_delivered hStarted hOutcome]
      have hBegun : (x.begun Observer.impliedStatus).InRange := ⟨h.status, h.size, h.outcomes⟩
      exact hBegun.write_of_started rfl data more
    | some fault =>
      rw [write_of_start_failed hStarted hOutcome]
      refine ⟨h.status, ?_, h.outcomes⟩
      have hSize := h.size
      have hReported := h.outcomes _ fault hOutcome
      change 0 ≤ x.size + fault.octetsWritten
      omega

theorem InRange.handle (h : x.InRange) (message : Message) : (x.handle message).2.InRange := by
  cases message with
  | start m =>
    have hStaged : (x.stage m).InRange := ⟨h.status, h.size, h.outcomes⟩
    cases hStatus : m.status with
    | none =>
      rw [handle_start_of_none hStatus]
      exact hStaged
    | some status =>
      rw [handle_start_of_some hStatus]
      exact hStaged.writeHeader status
  | body m => exact h.write _ _
  | other kind fields =>
    cases kind with
    | none => exact h
    | some kind => exact h.hand _

theorem InRange.run (h : x.InRange) (app : App) : (app.run Exchange.handle x).state.InRange :=
  App.run_invariant (P := InRange) (fun message _ h => h.handle message) app h

end RequestLog.Exchange

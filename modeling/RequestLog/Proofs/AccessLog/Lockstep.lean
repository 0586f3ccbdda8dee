import Mathlib.Data.List.Forall2
import RequestLog.Proofs.AccessLog.Order

/-!
# Exchanges in step

Two exchanges are in step when they know the same status and size, meet the same outcomes, and have
handed over the same messages up to some point and messages alike from there on. What "alike" means
is left open: whatever relates the starts that two exchanges would send, and each other message to
itself, is kept by every operation, and the operation comes to the same result on both.
-/

namespace RequestLog

/-- Events that differ in what is handed over only, and in that as `R` admits. -/
inductive Event.Alike (R : Message → Message → Prop) : Event → Event → Prop where
  | handed {a b : Message} (alike : R a b) (outcome : Option Fault) :
      Alike R (.handed a outcome) (.handed b outcome)
  | logged (call : LogCall) : Alike R (.logged call) (.logged call)

theorem Event.Alike.length_sent {R : Message → Message → Prop} {later later' : List Event}
    (h : List.Forall₂ (Event.Alike R) later later') :
    (later'.filterMap Event.message?).length = (later.filterMap Event.message?).length := by
  induction h with
  | nil => rfl
  | cons hFirst _ ih =>
    cases hFirst with
    | handed alike outcome => exact congrArg Nat.succ ih
    | logged call => exact ih

/-- Events that are alike by a relation that equality implies are equal. -/
theorem Event.Alike.eq {R : Message → Message → Prop} (hEq : ∀ a b, R a b → a = b)
    {later later' : List Event} (h : List.Forall₂ (Event.Alike R) later later') :
    later' = later := by
  induction h with
  | nil => rfl
  | cons hFirst _ ih =>
    rw [ih]
    cases hFirst with
    | handed alike outcome => rw [hEq _ _ alike]
    | logged call => rfl

namespace Exchange

/-- Two exchanges that have seen the same up to `common` and the like from there on. -/
structure InStep (R : Message → Message → Prop) (common : List Event) (x y : Exchange) : Prop where
  status? : y.status? = x.status?
  size : y.size = x.size
  started : y.writer.started = x.writer.started
  outcomes : y.channel.outcomes = x.channel.outcomes
  events : ∃ later later', x.channel.events = common ++ later ∧
    y.channel.events = common ++ later' ∧ List.Forall₂ (Event.Alike R) later later'

variable {R : Message → Message → Prop} {common : List Event} {x y : Exchange}

theorem InStep.wroteHeader (h : InStep R common x y) : y.wroteHeader = x.wroteHeader := by
  rw [Observer.wroteHeader, h.status?, Observer.wroteHeader]

theorem InStep.status (h : InStep R common x y) : y.status = x.status := by
  rw [Observer.status, h.status?, Observer.status]

theorem InStep.outcome (h : InStep R common x y) : y.channel.outcome = x.channel.outcome := by
  obtain ⟨later, later', hx, hy, hAlike⟩ := h.events
  have hSent : y.channel.sent.length = x.channel.sent.length := by
    simp only [Channel.sent, hx, hy, List.filterMap_append, List.length_append,
      Event.Alike.length_sent hAlike]
  rw [Channel.outcome, h.outcomes, hSent, Channel.outcome]

theorem InStep.settle (h : InStep R common x y) : InStep R common x.settle y.settle where
  status? := by
    change some y.status = some x.status
    rw [h.status]
  size := h.size
  started := h.started
  outcomes := h.outcomes
  events := h.events

theorem InStep.hand (h : InStep R common x y) {a b : Message} (hAlike : R a b) :
    InStep R common (x.hand a) (y.hand b) where
  status? := h.status?
  size := h.size
  started := h.started
  outcomes := h.outcomes
  events := by
    obtain ⟨later, later', hx, hy, hLater⟩ := h.events
    refine ⟨later ++ [.handed a x.channel.outcome], later' ++ [.handed b x.channel.outcome],
      ?_, ?_, ?_⟩
    · rw [channel_hand, Channel.events_send, hx, List.append_assoc]
    · rw [channel_hand, Channel.events_send, hy, h.outcome, List.append_assoc]
    · exact List.rel_append hLater (.cons (.handed hAlike _) .nil)

theorem InStep.begun (h : InStep R common x y) {status : Int}
    (hStart : R (x.startMessage status) (y.startMessage status)) :
    InStep R common (x.begun status) (y.begun status) := by
  have hHanded := h.hand hStart
  exact ⟨hHanded.status?, hHanded.size, rfl, hHanded.outcomes, hHanded.events⟩

theorem InStep.writeHeader (h : InStep R common x y) {status : Int}
    (hStart : R (x.startMessage status) (y.startMessage status)) :
    (y.writeHeader status).1 = (x.writeHeader status).1 ∧
    InStep R common (x.writeHeader status).2 (y.writeHeader status).2 := by
  cases hStatus : Observer.isStatus status with
  | false =>
    rw [writeHeader_of_refused hStatus, writeHeader_of_refused hStatus]
    exact ⟨rfl, h⟩
  | true =>
    cases hOutcome : x.channel.outcome with
    | none =>
      rw [writeHeader_of_delivered hStatus hOutcome,
        writeHeader_of_delivered hStatus (h.outcome.trans hOutcome)]
      have hBegun := h.begun hStart
      exact ⟨rfl, rfl, hBegun.size, hBegun.started, hBegun.outcomes, hBegun.events⟩
    | some fault =>
      rw [writeHeader_of_failed hStatus hOutcome,
        writeHeader_of_failed hStatus (h.outcome.trans hOutcome)]
      exact ⟨rfl, h.hand hStart⟩

theorem InStep.write_of_started (h : InStep R common x y) (hStarted : x.writer.started = true)
    {data : Octets} {more : Bool}
    (hBody : R (Message.bodyOf data more) (Message.bodyOf data more)) :
    (y.write data more).1 = (x.write data more).1 ∧
    InStep R common (x.write data more).2 (y.write data more).2 := by
  rw [Exchange.write_of_started hStarted, Exchange.write_of_started (h.started.trans hStarted),
    h.outcome]
  have hHanded := h.settle.hand hBody
  refine ⟨rfl, hHanded.status?, ?_, hHanded.started, hHanded.outcomes, hHanded.events⟩
  change y.size + _ = x.size + _
  rw [h.size]

theorem InStep.write (h : InStep R common x y) {data : Octets} {more : Bool}
    (hStart : R (x.startMessage Observer.impliedStatus) (y.startMessage Observer.impliedStatus))
    (hBody : R (Message.bodyOf data more) (Message.bodyOf data more)) :
    (y.write data more).1 = (x.write data more).1 ∧
    InStep R common (x.write data more).2 (y.write data more).2 := by
  cases hStarted : x.writer.started with
  | true => exact h.write_of_started hStarted hBody
  | false =>
    have hNotStarted := h.started.trans hStarted
    cases hOutcome : x.channel.outcome with
    | none =>
      rw [write_of_start_delivered hStarted hOutcome,
        write_of_start_delivered hNotStarted (h.outcome.trans hOutcome)]
      exact (h.begun hStart).write_of_started rfl hBody
    | some fault =>
      rw [write_of_start_failed hStarted hOutcome,
        write_of_start_failed hNotStarted (h.outcome.trans hOutcome)]
      have hHanded := h.settle.hand hStart
      refine ⟨rfl, hHanded.status?, ?_, hHanded.started, hHanded.outcomes, hHanded.events⟩
      change y.size + _ = x.size + _
      rw [h.size]

end Exchange

end RequestLog

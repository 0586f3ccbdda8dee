import RequestLog.Proofs.AccessLog.Exchange

/-!
# The course of a request

A run of an application keeps whatever handling one message keeps. After it the error response is
sent, if no status is known: a start, and a piece of body when the start was delivered. The answer
is given here case by case, so that a statement about a whole request is one about handling a
message and one about each of these cases. How a request is concluded is given by its ending in the
same way.
-/

namespace RequestLog

theorem App.run_invariant {σ : Type} {handle : Message → σ → Except Fault Unit × σ} {P : σ → Prop}
    (hStep : ∀ message s, P s → P (handle message s).2) (app : App) {s : σ} (h : P s) :
    P (app.run handle s).state := by
  induction app generalizing s with
  | finish ending => exact h
  | send message next ih => exact ih _ (hStep message s h)

/-- What an application sends in the course of a run, raised faults or not. -/
def App.messages {σ : Type} (handle : Message → σ → Except Fault Unit × σ) : App → σ → List Message
  | .finish _, _ => []
  | .send message next, s =>
    message :: messages handle (next (faultOf (handle message s).1)) (handle message s).2

namespace Exchange

def headed (x : Exchange) : Exchange :=
  { x with writer := { x.writer with
      headers := (x.writer.headers.put (Headers.asciiName "content-type")
        (Headers.asciiName "text/plain; charset=utf-8")).put
          (Headers.asciiName "content-length") (Headers.asciiName "21") } }

@[simp] theorem channel_headed (x : Exchange) : x.headed.channel = x.channel := rfl

def answering (x : Exchange) : Exchange :=
  { x.headed.begun AccessLog.errorStatus with status? := some AccessLog.errorStatus }

end Exchange

namespace AccessLog

theorem setHeaders_errorHeaders (x : Exchange) :
    setHeaders errorHeaders x = (.ok (), x.headed) := rfl

theorem answer_of_known {x : Exchange} (h : x.wroteHeader = true) : answer x = (.ok (), x) := by
  rw [answer, if_pos h]

theorem answer_of_start_failed {x : Exchange} (h : x.wroteHeader = false) {fault : Fault}
    (hOutcome : x.channel.outcome = some fault) :
    answer x = (.error fault, x.headed.hand (x.headed.startMessage errorStatus)) := by
  have hStart := Exchange.writeHeader_of_failed (show Observer.isStatus errorStatus = true from rfl)
    (x := x.headed) hOutcome
  rw [answer, h, if_neg (by decide), sendError, setHeaders_errorHeaders]
  simp only [hStart]

theorem answer_of_start_delivered {x : Exchange} (h : x.wroteHeader = false)
    (hOutcome : x.channel.outcome = none) :
    answer x = ((x.answering.write errorBody false).1.map fun _ => (),
      (x.answering.write errorBody false).2) := by
  have hStart : x.headed.writeHeader errorStatus = (.ok (), x.answering) :=
    Exchange.writeHeader_of_delivered (show Observer.isStatus errorStatus = true from rfl) hOutcome
  rw [answer, h, if_neg (by decide), sendError, setHeaders_errorHeaders]
  simp only [hStart]
  cases hWrite : x.answering.write errorBody false with
  | mk result y => cases result <;> rfl

/-- A fault that is logged: a cancellation, or an ordinary fault whose detail can be made. -/
def IsTold (fault : Fault) : Prop :=
  fault.disposition = .cancelled ∨
    fault.disposition = .ordinary ∧ ∃ detail, fault.detail = .ok detail

section

variable {run : App.Run Exchange} {fault : Fault} (hEnding : run.ending = some fault)

include hEnding

theorem conclude_of_told (h : fault.disposition = .ordinary) {detail : Text}
    (hDetail : fault.detail = .ok detail) :
    (conclude run).exchange = (answer run.state).2 ∧
    (conclude run).call = some (.error detail) ∧
    (conclude run).raised = (App.faultOf (answer run.state).1).or (some fault) := by
  simp only [conclude, hEnding, h, hDetail, and_self]

/-- Without a detail nothing is answered and nothing logged. -/
theorem conclude_of_untold (h : fault.disposition = .ordinary) {cause : Fault}
    (hDetail : fault.detail = .error cause) :
    conclude run = ⟨run.state, none, some cause, false⟩ := by
  simp only [conclude, hEnding, h, hDetail]

theorem conclude_of_cancelled (h : fault.disposition = .cancelled) :
    conclude run = ⟨run.state, some (.error cancelledDetail), some fault, false⟩ := by
  simp only [conclude, hEnding, h]

theorem conclude_of_fatal (h : fault.disposition = .fatal) :
    conclude run = ⟨run.state, none, some fault, false⟩ := by
  simp only [conclude, hEnding, h]

end

theorem conclude_of_returned {run : App.Run Exchange} (h : run.ending = none) :
    conclude run = ⟨run.state, some .access, none, false⟩ := by
  rw [conclude, h]

/-- Unless the error response is sent, a request ends as its application leaves it. -/
theorem conclude_exchange (run : App.Run Exchange) :
    (conclude run).exchange = run.state ∨ (conclude run).exchange = (answer run.state).2 := by
  cases hEnding : run.ending with
  | none => exact Or.inl (by rw [conclude_of_returned hEnding])
  | some fault =>
    cases hDisposition : fault.disposition with
    | ordinary =>
      cases hDetail : fault.detail with
      | ok detail => exact Or.inr (conclude_of_told hEnding hDisposition hDetail).1
      | error cause => exact Or.inl (by rw [conclude_of_untold hEnding hDisposition hDetail])
    | cancelled => exact Or.inl (by rw [conclude_of_cancelled hEnding hDisposition])
    | fatal => exact Or.inl (by rw [conclude_of_fatal hEnding hDisposition])

theorem answer_sends (x : Exchange) : x.channel.Sends (answer x).2.channel := by
  cases hKnown : x.wroteHeader with
  | true =>
    rw [answer_of_known hKnown]
    exact .refl
  | false =>
    cases hOutcome : x.channel.outcome with
    | some fault =>
      rw [answer_of_start_failed hKnown hOutcome]
      exact .send _ .refl
    | none =>
      rw [answer_of_start_delivered hKnown hOutcome]
      have hStart : x.channel.Sends x.answering.channel := .send _ .refl
      exact hStart.trans (Exchange.write_sends errorBody false x.answering)

theorem run_sends (app : App) (x : Exchange) :
    x.channel.Sends (app.run Exchange.handle x).state.channel :=
  App.run_invariant (P := fun y => x.channel.Sends y.channel)
    (fun message y h => h.trans (Exchange.handle_sends message y)) app .refl

theorem conclude_sends (app : App) (x : Exchange) :
    x.channel.Sends (conclude (app.run Exchange.handle x)).exchange.channel := by
  rcases conclude_exchange (app.run Exchange.handle x) with h | h
  · rw [h]
    exact run_sends app x
  · rw [h]
    exact (run_sends app x).trans (answer_sends _)

end AccessLog

end RequestLog

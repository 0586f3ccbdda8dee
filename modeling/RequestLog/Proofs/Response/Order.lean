import RequestLog.Proofs.Response.Wire

/-!
# The order of a response

A response is in order when every piece of its body that is handed over has a start before it that
was delivered. Handing over one more message keeps the order if the message is no piece of body or
a start was delivered already.
-/

namespace RequestLog

namespace Message

def isStart : Message → Bool
  | .start _ => true
  | _ => false

def isBody : Message → Bool
  | .body _ => true
  | _ => false

/-- A response begins with a start or, if its application leaves that out, with a piece of body. -/
def opens (m : Message) : Bool := m.isStart || m.isBody

end Message

namespace Event

def handsBody : Event → Bool
  | .handed m _ => m.isBody
  | .logged _ => false

def deliversStart : Event → Bool
  | .handed m none => m.isStart
  | _ => false

def InOrder (events : List Event) : Prop :=
  ∀ before event after, events = before ++ event :: after → event.handsBody = true →
    ∃ start ∈ before, start.deliversStart = true

theorem inOrder_nil : InOrder [] := by
  intro before event after hSplit
  simp at hSplit

/-- An event is added in order if it hands over no body or a start was delivered before it. -/
theorem InOrder.concat {events : List Event} (h : InOrder events) {last : Event}
    (hLast : last.handsBody = true → ∃ start ∈ events, start.deliversStart = true) :
    InOrder (events ++ [last]) := by
  intro before event after hSplit hBody
  rcases List.eq_nil_or_concat after with rfl | ⟨rest, final, rfl⟩
  · obtain ⟨rfl, hEvent⟩ := List.append_inj' hSplit rfl
    obtain rfl := (List.cons.inj hEvent).1
    exact hLast hBody
  · have hInit : events ++ [last] = (before ++ event :: rest) ++ [final] := by simpa using hSplit
    exact h before event rest (List.append_inj' hInit rfl).1 hBody

end Event

namespace Channel

def startsDelivered (c : Channel) : Nat := c.events.countP Event.deliversStart

variable {c : Channel} {m : Message}

theorem events_send (m : Message) (c : Channel) :
    (c.send m).2.events = c.events ++ [.handed m c.outcome] := rfl

theorem startsDelivered_send_of_some {fault : Fault} (h : c.outcome = some fault) (m : Message) :
    (c.send m).2.startsDelivered = c.startsDelivered := by
  simp [startsDelivered, events_send, h, Event.deliversStart]

theorem startsDelivered_send_of_not_isStart (h : m.isStart = false) (c : Channel) :
    (c.send m).2.startsDelivered = c.startsDelivered := by
  cases hOutcome : c.outcome <;>
    simp [startsDelivered, events_send, hOutcome, Event.deliversStart, h]

theorem startsDelivered_send_delivered (hOutcome : c.outcome = none) (h : m.isStart = true) :
    (c.send m).2.startsDelivered = c.startsDelivered + 1 := by
  simp [startsDelivered, events_send, hOutcome, Event.deliversStart, h]

theorem inOrder_send (h : Event.InOrder c.events)
    (hBody : m.isBody = true → c.startsDelivered ≠ 0) : Event.InOrder (c.send m).2.events := by
  refine h.concat ?_
  intro hHands
  exact List.countP_pos_iff.mp (Nat.pos_of_ne_zero (hBody hHands))

end Channel

end RequestLog

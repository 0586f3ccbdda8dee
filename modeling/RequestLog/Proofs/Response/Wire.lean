import RequestLog.Response.Observer

/-!
# The wire

What a channel tells of a response: the statuses of the starts that were delivered, the last of
them, and how many octets of body were delivered. Handing over one message adds to each of these
what the message carries if it was delivered, and nothing otherwise.
-/

namespace RequestLog

namespace Message

def startStatus? : Message → Option Int
  | .start m => m.status
  | _ => none

def bodyLength : Message → Nat
  | .body m => (m.body.getD []).length
  | _ => 0

end Message

def Event.bodyFault? : Event → Option Fault
  | .handed (.body _) outcome => outcome
  | _ => none

namespace Channel

def startStatuses (c : Channel) : List Int := c.delivered.filterMap Message.startStatus?

/-- The status of the last start that was delivered, and 200 without any. -/
def lastStatus (c : Channel) : Int := c.startStatuses.getLast?.getD Observer.impliedStatus

def deliveredOctets (c : Channel) : Nat := c.delivered.foldl (fun n m => n + m.bodyLength) 0

theorem delivered_send_of_none {c : Channel} (h : c.outcome = none) (m : Message) :
    (c.send m).2.delivered = c.delivered ++ [m] := by
  rw [delivered_send, if_pos h]

theorem delivered_send_of_some {c : Channel} {fault : Fault} (h : c.outcome = some fault)
    (m : Message) : (c.send m).2.delivered = c.delivered := by
  rw [delivered_send, if_neg (by simp [h]), List.append_nil]

/-- A message that is no start leaves the statuses as they are, delivered or not. -/
theorem startStatuses_send_of_none {m : Message} (h : m.startStatus? = none) (c : Channel) :
    (c.send m).2.startStatuses = c.startStatuses := by
  rw [startStatuses, delivered_send, List.filterMap_append]
  split <;> simp [h, startStatuses]

theorem startStatuses_send_delivered {c : Channel} (hOutcome : c.outcome = none) {m : Message}
    {status : Int} (h : m.startStatus? = some status) :
    (c.send m).2.startStatuses = c.startStatuses ++ [status] := by
  rw [startStatuses, delivered_send_of_none hOutcome, List.filterMap_append]
  simp [h, startStatuses]

theorem startStatuses_send_failed {c : Channel} {fault : Fault} (h : c.outcome = some fault)
    (m : Message) : (c.send m).2.startStatuses = c.startStatuses := by
  rw [startStatuses, delivered_send_of_some h, startStatuses]

theorem deliveredOctets_send_delivered {c : Channel} (h : c.outcome = none) (m : Message) :
    (c.send m).2.deliveredOctets = c.deliveredOctets + m.bodyLength := by
  simp [deliveredOctets, delivered_send_of_none h]

theorem deliveredOctets_send_failed {c : Channel} {fault : Fault} (h : c.outcome = some fault)
    (m : Message) : (c.send m).2.deliveredOctets = c.deliveredOctets := by
  rw [deliveredOctets, delivered_send_of_some h, deliveredOctets]

theorem deliveredOctets_send_of_zero {m : Message} (h : m.bodyLength = 0) (c : Channel) :
    (c.send m).2.deliveredOctets = c.deliveredOctets := by
  rw [deliveredOctets, delivered_send]
  split <;> simp [h, deliveredOctets]

theorem lastStatus_send_delivered {c : Channel} (hOutcome : c.outcome = none) {m : Message}
    {status : Int} (h : m.startStatus? = some status) : (c.send m).2.lastStatus = status := by
  rw [lastStatus, startStatuses_send_delivered hOutcome h, List.getLast?_concat]
  rfl

theorem lastStatus_of_nil {c : Channel} (h : c.startStatuses = []) :
    c.lastStatus = Observer.impliedStatus := by
  rw [lastStatus, h]
  rfl

theorem lastStatus_congr {c c' : Channel} (h : c'.startStatuses = c.startStatuses) :
    c'.lastStatus = c.lastStatus := by
  rw [lastStatus, h, lastStatus]

theorem lastStatus_of_delivered {c c' : Channel} (h : c'.delivered = c.delivered) :
    c'.lastStatus = c.lastStatus :=
  lastStatus_congr (congrArg (List.filterMap Message.startStatus?) h)

theorem deliveredOctets_of_delivered {c c' : Channel} (h : c'.delivered = c.delivered) :
    c'.deliveredOctets = c.deliveredOctets := by
  rw [deliveredOctets, h, deliveredOctets]

inductive Sends (c : Channel) : Channel → Prop where
  | refl : Sends c c
  | send {d : Channel} (m : Message) : Sends c d → Sends c (d.send m).2

theorem Sends.trans {c d e : Channel} (h₁ : c.Sends d) (h₂ : d.Sends e) : c.Sends e := by
  induction h₂ with
  | refl => exact h₁
  | send m _ ih => exact .send m ih

theorem Sends.calls_eq {c d : Channel} (h : c.Sends d) : d.calls = c.calls := by
  induction h with
  | refl => rfl
  | send m _ ih => rw [calls_send, ih]

theorem Sends.outcomes_eq {c d : Channel} (h : c.Sends d) : d.outcomes = c.outcomes := by
  induction h with
  | refl => rfl
  | send m _ ih => exact ih

theorem Sends.exists_sent {c d : Channel} (h : c.Sends d) : ∃ more, d.sent = c.sent ++ more := by
  induction h with
  | refl => exact ⟨[], (List.append_nil _).symm⟩
  | send m _ ih =>
    obtain ⟨more, hMore⟩ := ih
    exact ⟨more ++ [m], by rw [sent_send, hMore, List.append_assoc]⟩

end Channel

end RequestLog

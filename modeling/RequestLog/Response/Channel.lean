import RequestLog.Response.Message

/-!
# Channels

The way to the server for one request, and what has happened on it. The server takes every message
that it is handed; its `n`-th taking, counted from zero, may raise a fault. Calls that log the
request are kept among the events, so that their place in the order shows.
-/

namespace RequestLog

inductive LogCall where
  | access
  | error (detail : Text)
  deriving DecidableEq, Repr

inductive Event where
  | handed (message : Message) (outcome : Option Fault)
  | logged (call : LogCall)
  deriving DecidableEq, Repr

namespace Event

def message? : Event → Option Message
  | .handed message _ => some message
  | .logged _ => none

/-- The message of a handing over that raised nothing. -/
def delivered? : Event → Option Message
  | .handed message none => some message
  | _ => none

def call? : Event → Option LogCall
  | .handed _ _ => none
  | .logged call => some call

end Event

structure Channel where
  outcomes : Nat → Option Fault
  /-- Oldest first. -/
  events : List Event := []

namespace Channel

def sent (c : Channel) : List Message := c.events.filterMap Event.message?

def delivered (c : Channel) : List Message := c.events.filterMap Event.delivered?

def calls (c : Channel) : List LogCall := c.events.filterMap Event.call?

def outcome (c : Channel) : Option Fault := c.outcomes c.sent.length

def record (c : Channel) (event : Event) : Channel := { c with events := c.events ++ [event] }

def answer : Option Fault → Except Fault Unit
  | none => .ok ()
  | some fault => .error fault

def send (message : Message) (c : Channel) : Except Fault Unit × Channel :=
  (answer c.outcome, c.record (.handed message c.outcome))

theorem sent_send (m : Message) (c : Channel) : (send m c).2.sent = c.sent ++ [m] := by
  simp [send, record, sent, Event.message?]

theorem calls_send (m : Message) (c : Channel) : (send m c).2.calls = c.calls := by
  simp [send, record, calls, Event.call?]

theorem delivered_send (m : Message) (c : Channel) :
    (send m c).2.delivered = c.delivered ++ if c.outcome = none then [m] else [] := by
  cases h : c.outcome <;> simp [send, record, delivered, Event.delivered?, h]

end Channel

end RequestLog

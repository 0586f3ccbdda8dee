import RequestLog.Response.Message

/-!
# Applications

An application in the course of one request: it sends messages, learns of each whether sending it
raised a fault, and ends by returning or by raising a fault itself. What it sends next may hang on
what it learned. `run` plays an application against any way of sending.
-/

namespace RequestLog

inductive App where
  | finish (ending : Option Fault)
  | send (message : Message) (next : Option Fault → App)

namespace App

def faultOf {α : Type} : Except Fault α → Option Fault
  | .ok _ => none
  | .error fault => some fault

/-- What is left of a run: how the application ended, what its sends came to, and the state. -/
structure Run (σ : Type) where
  ending : Option Fault
  replies : List (Option Fault)
  state : σ

def run {σ : Type} (handle : Message → σ → Except Fault Unit × σ) : App → σ → Run σ
  | .finish ending, s => ⟨ending, [], s⟩
  | .send message next, s =>
    let (result, s) := handle message s
    let rest := run handle (next (faultOf result)) s
    { rest with replies := faultOf result :: rest.replies }

def sendThen (message : Message) (rest : App) : App :=
  .send message fun
    | none => rest
    | some fault => .finish (some fault)

/-- Sends a message; an ordinary fault of sending it is passed over. -/
def trySendThen (message : Message) (rest : App) : App :=
  .send message fun
    | none => rest
    | some fault => if fault.disposition = .ordinary then rest else .finish (some fault)

end App

end RequestLog

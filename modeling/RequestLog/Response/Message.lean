import RequestLog.Fault
import RequestLog.Headers

/-!
# Response messages

What an application sends in answer to a request: the start of a response, a piece of its body, or
something else that is passed on as it is. Keys may be missing, and there may be keys beyond those
that a message of its kind needs. A message in normal form has all the keys it needs.
-/

namespace RequestLog

structure StartMessage where
  status : Option Int := none
  headers : Option Headers := none
  extra : Fields := []
  deriving DecidableEq, Repr

structure BodyMessage where
  body : Option Octets := none
  more : Option Bool := none
  extra : Fields := []
  deriving DecidableEq, Repr

inductive Message where
  | start (message : StartMessage)
  | body (message : BodyMessage)
  /-- A message of another kind, or without any. -/
  | other (kind : Option Text) (fields : Fields)
  deriving DecidableEq, Repr

namespace Message

def startOf (status : Int) (headers : Headers) (extra : Fields) : Message :=
  .start ⟨some status, some headers, extra⟩

def bodyOf (data : Octets) (more : Bool) : Message := .body ⟨some data, some more, []⟩

/-- The message as it is handed on: what is missing from a start or a piece of body is filled in,
and a piece of body loses its other keys. -/
def normal : Message → Message
  | .start m => .start { m with headers := some (m.headers.getD []) }
  | .body m => bodyOf (m.body.getD []) (m.more.getD false)
  | m => m

end Message

end RequestLog

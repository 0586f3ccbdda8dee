import RequestLog.Identity
import RequestLog.Response.Observer
import RequestLog.Sink

/-!
# Building records

The record of a request is made from the request, what the observer saw of the response, and a
clock. The URL is redacted first and every later field reads the redacted one; an empty user,
referrer or user agent is replaced by the placeholder, an empty request id is not. The first fault
on the way is the result, and a record that is made is emitted once.
-/

namespace RequestLog

/-- The start of a request, a reading of a steady clock then, and one now. -/
structure Clock where
  start : Stamp
  started : Float
  now : Float

def Clock.elapsed (c : Clock) : Except Fault Int :=
  match Elapsed.ofSeconds (c.now - c.started) with
  | .ok microseconds => .ok microseconds
  | .error cause => .error (.elapsed cause)

namespace Builder

variable {σ κ : Type}

def draft (s : Settings) (r : Request) (o : Observer σ) (clock : Clock) :
    Except Fault Record.Draft := do
  let url ← Redaction.redact s.redactedParams s.redactionMarker r.url
  let user ← Identity.resolve r url s.usernameParam
  let parts ← Uri.read url
  let requestId ← r.namedHeader s.requestIdHeader
  let elapsed ← clock.elapsed
  return {
    host := Address.host r.remoteAddress
    user := Identity.firstNonEmpty [user, s.placeholder]
    start := clock.start
    method := r.method
    uri := parts.requestUri
    proto := r.proto
    status := o.status
    size := o.size
    referrer := Identity.firstNonEmpty [r.referrer, s.placeholder]
    userAgent := Identity.firstNonEmpty [r.userAgent, s.placeholder]
    requestId := requestId
    elapsed := elapsed }

def valid {α : Type} (checked : Validation.Validated α) : Except Fault α :=
  match checked with
  | .ok a => .ok a
  | .error issues => .error (.invalid issues)

def build (s : Settings) (r : Request) (o : Observer σ) (clock : Clock) :
    Except Fault AccessRecord := do
  valid (← draft s r o clock).check

def buildError (s : Settings) (r : Request) (o : Observer σ) (clock : Clock) (detail : Text) :
    Except Fault ErrorRecord := do
  let record ← build s r o clock
  return { toAccessRecord := record, tag := s.errorTag, detail := detail }

def recordFor (s : Settings) (r : Request) (o : Observer σ) (clock : Clock) :
    LogCall → Except Fault LogRecord
  | .access => (build s r o clock).map .access
  | .error detail => (buildError s r o clock detail).map .error

def emission : LogCall → Emission
  | .access => .access
  | .error _ => .error

/-- Makes the record and emits it; a record that cannot be made is not emitted. -/
def log [Sink κ] (s : Settings) (r : Request) (o : Observer σ) (clock : Clock) (call : LogCall)
    (sink : κ) : Except Fault LogRecord × κ :=
  match recordFor s r o clock call with
  | .error fault => (.error fault, sink)
  | .ok record =>
    match Sink.emit (emission call) record sink with
    | (.ok (), sink) => (.ok record, sink)
    | (.error fault, sink) => (.error fault, sink)

end Builder

end RequestLog

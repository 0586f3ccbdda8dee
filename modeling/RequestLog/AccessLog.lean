import RequestLog.App
import RequestLog.Builder

/-!
# Access log

The layer around an application that logs each request once. What the application sends goes through
an observer over a channel writer; when the application has ended, the record is made and emitted.
An application that raises before any status is answered for by a plain error response, unless the
detail of its fault cannot be made. Requests of other kinds and to excluded paths are handed to the
application untouched.
-/

namespace RequestLog

abbrev Exchange := Observer ChannelWriter

namespace Exchange

def channel (x : Exchange) : Channel := x.writer.channel

/-- Puts the message's fields and keys where the writer will find them. -/
def stage (m : StartMessage) (x : Exchange) : Exchange :=
  { x with writer := { x.writer with
      headers := x.writer.headers ++ m.headers.getD []
      startFields := x.writer.startFields.update m.extra } }

def sendStart (m : StartMessage) (x : Exchange) : Except Fault Unit × Exchange :=
  let x := x.stage m
  match m.status with
  | some status => x.writeHeader status
  | none => (.error (.missingKey "status".toList), x)

def sendBody (m : BodyMessage) (x : Exchange) : Except Fault Unit × Exchange :=
  let (result, x) := x.write (m.body.getD []) (m.more.getD false)
  (result.map fun _ => (), x)

def sendOther (message : Message) (x : Exchange) : Except Fault Unit × Exchange :=
  let (result, channel) := x.channel.send message
  (result, { x with writer := { x.writer with channel := channel } })

def handle (message : Message) (x : Exchange) : Except Fault Unit × Exchange :=
  match message with
  | .start m => x.sendStart m
  | .body m => x.sendBody m
  | .other (some _) _ => x.sendOther message
  | .other none _ => (.error (.missingKey "type".toList), x)

def begin (outcomes : Nat → Option Fault) : Exchange :=
  { writer := { channel := { outcomes := outcomes } } }

def note (event : Event) (x : Exchange) : Exchange :=
  { x with writer := { x.writer with channel := x.writer.channel.record event } }

end Exchange

structure Report (κ : Type) where
  raised : Option Fault
  channel : Channel
  replies : List (Option Fault)
  answered : Bool
  sink : κ
  /-- Was the application reached at all? -/
  reached : Bool

namespace AccessLog

def errorStatus : Int := 500

def errorBody : Octets := Utf8.encode "Internal Server Error".toList

def errorNote : Text := "Sent 500 for unhandled exception".toList

def errorHeaders : List (Text × Text) :=
  [("content-type".toList, "text/plain; charset=utf-8".toList),
    ("content-length".toList, Digits.decimal errorBody.length)]

def setHeaders (fields : List (Text × Text)) (x : Exchange) : Except Fault Unit × Exchange :=
  match fields with
  | [] => (.ok (), x)
  | (name, value) :: rest =>
    match x.setHeader name value with
    | (.ok (), x) => setHeaders rest x
    | (.error fault, x) => (.error fault, x)

/-- The plain error response, through the observer; it ends with the first fault. -/
def sendError (x : Exchange) : Except Fault Unit × Exchange :=
  match setHeaders errorHeaders x with
  | (.error fault, x) => (.error fault, x)
  | (.ok (), x) =>
    match x.writeHeader errorStatus with
    | (.error fault, x) => (.error fault, x)
    | (.ok (), x) =>
      match x.write errorBody false with
      | (.error fault, x) => (.error fault, x)
      | (.ok _, x) => (.ok (), x)

def cancelledDetail : Text := "request cancelled".toList

/-- The error response is sent only when no status is known yet. -/
def answer (x : Exchange) : Except Fault Unit × Exchange :=
  if x.wroteHeader then (.ok (), x) else sendError x

structure Conclusion where
  exchange : Exchange
  call : Option LogCall
  raised : Option Fault
  answered : Bool

/-- A fault of the error response takes the place of the application's. So does one of making the
detail, which comes first: then nothing is answered, and nothing logged. -/
def conclude (run : App.Run Exchange) : Conclusion :=
  match run.ending with
  | none => ⟨run.state, some .access, none, false⟩
  | some fault =>
    match fault.disposition with
    | .fatal => ⟨run.state, none, some fault, false⟩
    | .cancelled => ⟨run.state, some (.error cancelledDetail), some fault, false⟩
    | .ordinary =>
      match fault.detail with
      | .error cause => ⟨run.state, none, some cause, false⟩
      | .ok detail =>
        let (response, x) := answer run.state
        let answered := !run.state.wroteHeader && (App.faultOf response).isNone
        ⟨x, some (.error detail), (App.faultOf response).or (some fault), answered⟩

variable {κ : Type} [Sink κ]

/-- Logs by one call, which leaves its mark on the channel. -/
def logged (s : Settings) (r : Request) (clock : Clock) (call : LogCall) (x : Exchange) (sink : κ) :
    Option Fault × Exchange × κ :=
  let (result, sink) := Builder.log s r x clock call sink
  (App.faultOf result, x.note (.logged call), sink)

/-- Concludes and logs; a fault of logging takes the place of any other. -/
def complete (s : Settings) (r : Request) (clock : Clock) (run : App.Run Exchange) (sink : κ) :
    Report κ :=
  let ending := conclude run
  match ending.call with
  | none => ⟨ending.raised, ending.exchange.channel, run.replies, ending.answered, sink, true⟩
  | some call =>
    let (failure, x, sink) := logged s r clock call ending.exchange sink
    ⟨failure.or ending.raised, x.channel, run.replies, ending.answered, sink, true⟩

/-- The application alone, with nothing between it and the channel. -/
def passThrough (app : App) (outcomes : Nat → Option Fault) (sink : κ) : Report κ :=
  let run := App.run (fun m (c : Channel) => c.send m) app { outcomes := outcomes }
  ⟨run.ending, run.state, run.replies, false, sink, true⟩

def isExcluded (s : Settings) (scope : Scope) : Bool :=
  match scope.path with
  | some path => s.excludedPaths.contains path
  | none => false

def refused (fault : Fault) (outcomes : Nat → Option Fault) (sink : κ) : Report κ :=
  ⟨some fault, { outcomes := outcomes }, [], false, sink, false⟩

def serve (s : Settings) (clock : Clock) (scope : Scope) (app : App)
    (outcomes : Nat → Option Fault) (sink : κ) : Report κ :=
  match scope.kind with
  | none => refused (.missingKey "type".toList) outcomes sink
  | some kind =>
    if kind ≠ "http".toList ∨ isExcluded s scope then passThrough app outcomes sink
    else
      match Request.ofScope scope with
      | .error fault => refused fault outcomes sink
      | .ok request =>
        complete s request clock (app.run Exchange.handle (Exchange.begin outcomes)) sink

end AccessLog

end RequestLog

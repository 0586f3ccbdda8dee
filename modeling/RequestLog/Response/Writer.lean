import RequestLog.Response.Channel

/-!
# Response writers

A response writer takes a status, pieces of a body and header fields; some writers can flush. Two
writers are given. A channel writer turns what it takes into messages on a channel and sends the
start of a response by itself when a piece of body comes first. A recorder notes the calls that
reach it and answers them from a script.
-/

namespace RequestLog

/-- A writer has changed even if it raised a fault. -/
class ResponseWriter (σ : Type) where
  name : σ → Text
  write : Octets → Bool → σ → Except Fault Int × σ
  writeHeader : Int → σ → Except Fault Unit × σ
  flush? : σ → Option (Except Fault Unit × σ)
  header? : Text → σ → Except Fault (Option Text)
  setHeader : Text → Text → σ → Except Fault Unit × σ
  eraseHeader : Text → σ → Except Fault Unit × σ
  headers : σ → List (Text × Text)

/-- The result of a call that can fail before the state is reached. -/
def Except.onState {σ : Type} (change : Except Fault σ) (s : σ) : Except Fault Unit × σ :=
  match change with
  | .ok s' => (.ok (), s')
  | .error fault => (.error fault, s)

structure ChannelWriter where
  channel : Channel
  headers : Headers := []
  started : Bool := false
  /-- Keys that go out with every start beside its own. -/
  startFields : Fields := []

namespace ChannelWriter

def ownKeys : List Text := ["type".toList, "status".toList, "headers".toList]

def startMessage (status : Int) (w : ChannelWriter) : Message :=
  Message.startOf status w.headers (w.startFields.without ownKeys)

def writeHeader (status : Int) (w : ChannelWriter) : Except Fault Unit × ChannelWriter :=
  match w.channel.send (w.startMessage status) with
  | (.ok (), channel) => (.ok (), { w with channel := channel, started := true })
  | (.error fault, channel) => (.error fault, { w with channel := channel })

def writeStarted (data : Octets) (more : Bool) (w : ChannelWriter) :
    Except Fault Int × ChannelWriter :=
  match w.channel.send (Message.bodyOf data more) with
  | (.ok (), channel) => (.ok data.length, { w with channel := channel })
  | (.error fault, channel) => (.error fault, { w with channel := channel })

def impliedStatus : Int := 200

def write (data : Octets) (more : Bool) (w : ChannelWriter) : Except Fault Int × ChannelWriter :=
  if w.started then w.writeStarted data more
  else
    match w.writeHeader impliedStatus with
    | (.ok (), w) => w.writeStarted data more
    | (.error fault, w) => (.error fault, w)

def wire {α : Type} (x : Except Latin1.Unencodable α) : Except Fault α :=
  match x with
  | .ok a => .ok a
  | .error cause => .error (.unencodable cause)

def setHeader (name value : Text) (w : ChannelWriter) : Except Fault Unit × ChannelWriter :=
  Except.onState (do
    let name ← wire (Headers.wireName name)
    let value ← wire (Latin1.encode value)
    return { w with headers := w.headers.put name value }) w

def eraseHeader (name : Text) (w : ChannelWriter) : Except Fault Unit × ChannelWriter :=
  Except.onState ((wire (Headers.wireName name)).map fun name =>
    { w with headers := w.headers.erase name }) w

instance : ResponseWriter ChannelWriter where
  name _ := "ASGIResponseWriter".toList
  write := write
  writeHeader := writeHeader
  flush? _ := none
  header? name w := wire (w.headers.get? name)
  setHeader := setHeader
  eraseHeader := eraseHeader
  headers w := w.headers.toTexts

end ChannelWriter

inductive WriterCall where
  | write (data : Octets) (more : Bool)
  | writeHeader (status : Int)
  | flush
  deriving DecidableEq, Repr

/-- How a recorder answers one call: by a fault, or else, if the call writes, by a count. -/
structure Reply where
  fault : Option Fault := none
  count : Option Int := none
  deriving DecidableEq, Repr

structure Recorder where
  name : Text
  canFlush : Bool
  headers : List (Text × Text) := []
  /-- Oldest first. -/
  calls : List WriterCall := []
  /-- The replies to the next calls; when they are used up, every call succeeds in full. -/
  script : List Reply := []
  deriving DecidableEq, Repr

namespace Recorder

def take (call : WriterCall) (r : Recorder) : Reply × Recorder :=
  (r.script.headD {}, { r with calls := r.calls ++ [call], script := r.script.tail })

def write (data : Octets) (more : Bool) (r : Recorder) : Except Fault Int × Recorder :=
  let (reply, r) := r.take (.write data more)
  match reply.fault with
  | some fault => (.error fault, r)
  | none => (.ok (reply.count.getD data.length), r)

def call (call : WriterCall) (r : Recorder) : Except Fault Unit × Recorder :=
  let (reply, r) := r.take call
  (Channel.answer reply.fault, r)

def eraseHeader (name : Text) (r : Recorder) : Except Fault Unit × Recorder :=
  if r.headers.any (·.1 == name) then
    (.ok (), { r with headers := r.headers.filter (·.1 != name) })
  else (.error (.missingKey name), r)

instance : ResponseWriter Recorder where
  name r := r.name
  write := write
  writeHeader status r := r.call (.writeHeader status)
  flush? r := if r.canFlush then some (r.call .flush) else none
  header? name r := .ok (Entries.get? r.headers name)
  setHeader name value r := (.ok (), { r with headers := Entries.put name value r.headers })
  eraseHeader := eraseHeader
  headers r := r.headers

end Recorder

end RequestLog

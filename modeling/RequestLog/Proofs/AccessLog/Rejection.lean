import RequestLog.Proofs.AccessLog.Lockstep
import RequestLog.Proofs.AccessLog.Transparency

/-!
# Rejected starts

A start with a status out of range is refused, but what it carries has been put with the writer by
then. Two runs of which one has such a start more go in step from there on: the same replies, the
same status and size, and message for message the same. Only the starts that are handed over behind
it have its fields and keys beside their own, those of the error response included.
-/

namespace RequestLog

/-- What a writer keeps for the starts that it sends. -/
structure Held where
  headers : Headers
  fields : Fields

namespace Held

def add (held : Held) (m : StartMessage) : Held :=
  ⟨held.headers ++ m.headers.getD [], held.fields.update m.extra⟩

def addAll (held : Held) (starts : List StartMessage) : Held := starts.foldl add held

def start (status : Int) (held : Held) : Message :=
  .startOf status held.headers (held.fields.without ChannelWriter.ownKeys)

/-- The start of the error response, whose own fields take the place of others of their names. -/
def errorStart (held : Held) : Message :=
  start AccessLog.errorStatus { held with
    headers := (held.headers.put (Headers.asciiName "content-type")
      (Headers.asciiName "text/plain; charset=utf-8")).put
        (Headers.asciiName "content-length") (Headers.asciiName "21") }

theorem addAll_concat (held : Held) (starts : List StartMessage) (m : StartMessage) :
    held.addAll (starts ++ [m]) = (held.addAll starts).add m := by
  rw [addAll, List.foldl_append]
  rfl

theorem add_of_bare (held : Held) {m : StartMessage} (hHeaders : m.headers.getD [] = [])
    (hExtra : m.extra = []) : held.add m = held := by
  rw [add, hHeaders, hExtra, List.append_nil]
  rfl

end Held

/-- A message of a run, and the message in its place when the start `m` is rejected at a point where
the writer holds `held`. Between that point and a start the further ones are added. -/
inductive Burdened (held : Held) (m : StartMessage) : Message → Message → Prop where
  | same {message : Message} (other : message.isStart = false) : Burdened held m message message
  | start (status : Int) (further : List StartMessage) :
      Burdened held m ((held.addAll further).start status)
        (((held.add m).addAll further).start status)
  | errorStart (further : List StartMessage) :
      Burdened held m (held.addAll further).errorStart ((held.add m).addAll further).errorStart

theorem Burdened.eq_of_bare {held : Held} {m : StartMessage} (hHeaders : m.headers.getD [] = [])
    (hExtra : m.extra = []) {a b : Message} (h : Burdened held m a b) : a = b := by
  have hAdd := held.add_of_bare hHeaders hExtra
  cases h with
  | same other => rfl
  | start status further => rw [hAdd]
  | errorStart further => rw [hAdd]

namespace Exchange

def held (x : Exchange) : Held := ⟨x.writer.headers, x.writer.startFields⟩

theorem held_stage (m : StartMessage) (x : Exchange) : (x.stage m).held = x.held.add m := rfl

theorem held_writeHeader (status : Int) (x : Exchange) :
    held (x.writeHeader status).2 = x.held := by
  cases hStatus : Observer.isStatus status with
  | false => rw [writeHeader_of_refused hStatus]
  | true =>
    cases hOutcome : x.channel.outcome with
    | none =>
      rw [writeHeader_of_delivered hStatus hOutcome]
      rfl
    | some fault =>
      rw [writeHeader_of_failed hStatus hOutcome]
      rfl

theorem held_write (data : Octets) (more : Bool) (x : Exchange) :
    held (x.write data more).2 = x.held := by
  cases hStarted : x.writer.started with
  | true =>
    rw [write_of_started hStarted]
    rfl
  | false =>
    cases hOutcome : x.channel.outcome with
    | none =>
      rw [write_of_start_delivered hStarted hOutcome, write_of_started rfl]
      rfl
    | some fault =>
      rw [write_of_start_failed hStarted hOutcome]
      rfl

/-- In step, and the second exchange holds what a start `m` left that was rejected where the first
held `before`. -/
structure Trails (before : Held) (m : StartMessage) (common : List Event) (x y : Exchange) : Prop
    extends InStep (Burdened before m) common x y where
  held : ∃ further, x.held = before.addAll further ∧ y.held = (before.add m).addAll further

variable {before : Held} {m : StartMessage} {common : List Event} {x y : Exchange}

theorem trails_stage (m : StartMessage) (x : Exchange) :
    Trails x.held m x.channel.events x (x.stage m) where
  status? := rfl
  size := rfl
  started := rfl
  outcomes := rfl
  events := ⟨[], [], (List.append_nil _).symm, (List.append_nil _).symm, .nil⟩
  held := ⟨[], rfl, rfl⟩

theorem Trails.stage (h : Trails before m common x y) (further : StartMessage) :
    Trails before m common (x.stage further) (y.stage further) := by
  obtain ⟨starts, hx, hy⟩ := h.held
  refine ⟨⟨h.status?, h.size, h.started, h.outcomes, h.events⟩, starts ++ [further], ?_, ?_⟩
  · rw [held_stage, hx, Held.addAll_concat]
  · rw [held_stage, hy, Held.addAll_concat]

theorem Trails.startMessage (h : Trails before m common x y) (status : Int) :
    Burdened before m (x.startMessage status) (y.startMessage status) := by
  obtain ⟨starts, hx, hy⟩ := h.held
  change Burdened before m (x.held.start status) (y.held.start status)
  rw [hx, hy]
  exact .start status starts

theorem Trails.startMessage_headed (h : Trails before m common x y) :
    Burdened before m (x.headed.startMessage AccessLog.errorStatus)
      (y.headed.startMessage AccessLog.errorStatus) := by
  obtain ⟨starts, hx, hy⟩ := h.held
  change Burdened before m x.held.errorStart y.held.errorStart
  rw [hx, hy]
  exact .errorStart starts

theorem Trails.writeHeader (h : Trails before m common x y) (status : Int) :
    (y.writeHeader status).1 = (x.writeHeader status).1 ∧
    Trails before m common (x.writeHeader status).2 (y.writeHeader status).2 := by
  obtain ⟨hResult, hStep⟩ := h.toInStep.writeHeader (h.startMessage status)
  refine ⟨hResult, hStep, ?_⟩
  rw [held_writeHeader, held_writeHeader]
  exact h.held

theorem Trails.write (h : Trails before m common x y) (data : Octets) (more : Bool) :
    (y.write data more).1 = (x.write data more).1 ∧
    Trails before m common (x.write data more).2 (y.write data more).2 := by
  have hBody : Burdened before m (Message.bodyOf data more) (Message.bodyOf data more) :=
    .same rfl
  obtain ⟨hResult, hStep⟩ := h.toInStep.write (h.startMessage Observer.impliedStatus) hBody
  refine ⟨hResult, hStep, ?_⟩
  rw [held_write, held_write]
  exact h.held

theorem Trails.handle (h : Trails before m common x y) (message : Message) :
    (y.handle message).1 = (x.handle message).1 ∧
    Trails before m common (x.handle message).2 (y.handle message).2 := by
  cases message with
  | start further =>
    cases hStatus : further.status with
    | none =>
      rw [handle_start_of_none hStatus, handle_start_of_none hStatus]
      exact ⟨rfl, h.stage further⟩
    | some status =>
      rw [handle_start_of_some hStatus, handle_start_of_some hStatus]
      exact (h.stage further).writeHeader status
  | body b =>
    obtain ⟨hResult, hTrails⟩ := h.write (b.body.getD []) (b.more.getD false)
    exact ⟨congrArg (Except.map fun _ => ()) hResult, hTrails⟩
  | other kind fields =>
    cases kind with
    | none => exact ⟨rfl, h⟩
    | some kind =>
      refine ⟨?_, h.toInStep.hand (.same rfl), h.held⟩
      change Channel.answer y.channel.outcome = Channel.answer x.channel.outcome
      rw [h.outcome]

theorem Trails.run (h : Trails before m common x y) (app : App) :
    (app.run Exchange.handle y).ending = (app.run Exchange.handle x).ending ∧
    (app.run Exchange.handle y).replies = (app.run Exchange.handle x).replies ∧
    Trails before m common (app.run Exchange.handle x).state
      (app.run Exchange.handle y).state := by
  induction app generalizing x y with
  | finish ending => exact ⟨rfl, rfl, h⟩
  | send message next ih =>
    -- a run goes on with what the reply selects, and the replies are the same
    obtain ⟨hResult, hTrails⟩ := h.handle message
    simp only [App.run, hResult]
    obtain ⟨hEnding, hReplies, hRest⟩ := ih (App.faultOf (x.handle message).1) hTrails
    exact ⟨hEnding, congrArg (List.cons _) hReplies, hRest⟩

theorem Trails.answer (h : Trails before m common x y) :
    (AccessLog.answer y).1 = (AccessLog.answer x).1 ∧
    InStep (Burdened before m) common (AccessLog.answer x).2 (AccessLog.answer y).2 := by
  cases hKnown : x.wroteHeader with
  | true =>
    rw [AccessLog.answer_of_known hKnown, AccessLog.answer_of_known (h.wroteHeader.trans hKnown)]
    exact ⟨rfl, h.toInStep⟩
  | false =>
    have hUnknown := h.wroteHeader.trans hKnown
    have hHeaded : InStep (Burdened before m) common x.headed y.headed :=
      ⟨h.status?, h.size, h.started, h.outcomes, h.events⟩
    cases hOutcome : x.channel.outcome with
    | some fault =>
      rw [AccessLog.answer_of_start_failed hKnown hOutcome,
        AccessLog.answer_of_start_failed hUnknown (h.outcome.trans hOutcome)]
      exact ⟨rfl, hHeaded.hand h.startMessage_headed⟩
    | none =>
      rw [AccessLog.answer_of_start_delivered hKnown hOutcome,
        AccessLog.answer_of_start_delivered hUnknown (h.outcome.trans hOutcome)]
      have hBegun := hHeaded.begun h.startMessage_headed
      have hAnswering : InStep (Burdened before m) common x.answering y.answering :=
        ⟨rfl, hBegun.size, hBegun.started, hBegun.outcomes, hBegun.events⟩
      have hBody : Burdened before m (Message.bodyOf AccessLog.errorBody false)
          (Message.bodyOf AccessLog.errorBody false) := .same rfl
      obtain ⟨hResult, hStep⟩ := hAnswering.write_of_started rfl hBody
      exact ⟨congrArg (Except.map fun _ => ()) hResult, hStep⟩

end Exchange

namespace App

/-- The application with a message more behind the first `n` that it sends, and the reply to that
message passed over. -/
def interject (message : Message) : Nat → App → App
  | 0, app => .send message fun _ => app
  | _ + 1, .finish ending => .send message fun _ => .finish ending
  | n + 1, .send first next => .send first fun reply => interject message n (next reply)

/-- The state in which the first `n` messages of an application leave what it is run on. -/
def reach {σ : Type} (handle : Message → σ → Except Fault Unit × σ) : Nat → App → σ → σ
  | 0, _, s => s
  | _ + 1, .finish _, s => s
  | n + 1, .send message next, s =>
    reach handle n (next (faultOf (handle message s).1)) (handle message s).2

open Exchange

variable {m : StartMessage} {status : Int}

theorem handle_rejected (hStatus : m.status = some status)
    (hRejected : Observer.isStatus status = false) (x : Exchange) :
    x.handle (.start m) = (.error (.invalidStatus status), x.stage m) := by
  rw [handle_start_of_some hStatus]
  exact writeHeader_of_refused hRejected (x.stage m)

theorem run_send_rejected (hStatus : m.status = some status)
    (hRejected : Observer.isStatus status = false) (app : App) (x : Exchange) :
    let marked := (App.send (.start m) fun _ => app).run Exchange.handle x
    marked.ending = (app.run Exchange.handle x).ending ∧
    marked.replies = some (.invalidStatus status) :: (app.run Exchange.handle x).replies ∧
    Trails x.held m x.channel.events (app.run Exchange.handle x).state marked.state := by
  obtain ⟨hEnding, hReplies, hTrails⟩ := (trails_stage m x).run app
  simp only [run, handle_rejected hStatus hRejected]
  exact ⟨hEnding, congrArg (List.cons _) hReplies, hTrails⟩

/-- Up to where it is rejected a start changes nothing, and from there on the runs go in step. -/
theorem run_interject_rejected (hStatus : m.status = some status)
    (hRejected : Observer.isStatus status = false) (n : Nat) (app : App) (x : Exchange) :
    let marked := (app.interject (.start m) n).run Exchange.handle x
    let plain := app.run Exchange.handle x
    marked.ending = plain.ending ∧
    marked.replies =
      plain.replies.take n ++ some (.invalidStatus status) :: plain.replies.drop n ∧
    Trails (app.reach Exchange.handle n x).held m (app.reach Exchange.handle n x).channel.events
      plain.state marked.state := by
  induction app generalizing n x with
  | finish ending =>
    cases n with
    | zero => exact run_send_rejected hStatus hRejected (.finish ending) x
    | succ n => exact run_send_rejected hStatus hRejected (.finish ending) x
  | send message next ih =>
    cases n with
    | zero => exact run_send_rejected hStatus hRejected (.send message next) x
    | succ n =>
      obtain ⟨hEnding, hReplies, hTrails⟩ :=
        ih (faultOf (x.handle message).1) n (x.handle message).2
      exact ⟨hEnding, congrArg (List.cons _) hReplies, hTrails⟩

end App

namespace AccessLog

open Exchange

variable {before : Held} {m : StartMessage} {common : List Event}

theorem conclude_trails {plain marked : App.Run Exchange} (hEnding : marked.ending = plain.ending)
    (h : Trails before m common plain.state marked.state) :
    (conclude marked).call = (conclude plain).call ∧
    (conclude marked).raised = (conclude plain).raised ∧
    (conclude marked).answered = (conclude plain).answered ∧
    InStep (Burdened before m) common (conclude plain).exchange (conclude marked).exchange := by
  obtain ⟨hResult, hAnswer⟩ := h.answer
  have hKnown := h.wroteHeader
  cases hPlain : plain.ending with
  | none =>
    rw [conclude_of_returned hPlain, conclude_of_returned (hEnding.trans hPlain)]
    exact ⟨rfl, rfl, rfl, h.toInStep⟩
  | some fault =>
    have hMarked := hEnding.trans hPlain
    cases hDisposition : fault.disposition with
    | ordinary =>
      cases hDetail : fault.detail with
      | ok detail =>
        simp only [conclude, hMarked, hPlain, hDisposition, hDetail, hResult, hKnown, true_and]
        exact hAnswer
      | error cause =>
        rw [conclude_of_untold hPlain hDisposition hDetail,
          conclude_of_untold hMarked hDisposition hDetail]
        exact ⟨rfl, rfl, rfl, h.toInStep⟩
    | cancelled =>
      rw [conclude_of_cancelled hPlain hDisposition, conclude_of_cancelled hMarked hDisposition]
      exact ⟨rfl, rfl, rfl, h.toInStep⟩
    | fatal =>
      rw [conclude_of_fatal hPlain hDisposition, conclude_of_fatal hMarked hDisposition]
      exact ⟨rfl, rfl, rfl, h.toInStep⟩

variable {κ : Type} [Sink κ]

/-- Runs in step are logged alike: the record is made from the status and the size. -/
theorem complete_trails {plain marked : App.Run Exchange} (hEnding : marked.ending = plain.ending)
    (h : Trails before m common plain.state marked.state) (s : Settings) (request : Request)
    (clock : Clock) (sink : κ) :
    (complete s request clock marked sink).sink = (complete s request clock plain sink).sink ∧
    (complete s request clock marked sink).raised =
      (complete s request clock plain sink).raised ∧
    ∃ later later',
      (complete s request clock plain sink).channel.events = common ++ later ∧
      (complete s request clock marked sink).channel.events = common ++ later' ∧
      List.Forall₂ (Event.Alike (Burdened before m)) later later' := by
  obtain ⟨hCall, hRaised, -, hStep⟩ := conclude_trails hEnding h
  obtain ⟨later, later', hPlain, hMarked, hAlike⟩ := hStep.events
  cases hLogged : (conclude plain).call with
  | none =>
    simp only [complete, hCall.trans hLogged, hLogged, hRaised, true_and]
    exact ⟨later, later', hPlain, hMarked, hAlike⟩
  | some call =>
    have hRecord : Builder.recordFor s request (conclude marked).exchange clock call =
        Builder.recordFor s request (conclude plain).exchange clock call :=
      Builder.recordFor_congr_observer hStep.status hStep.size call
    refine ⟨?_, ?_, later ++ [.logged call], later' ++ [.logged call], ?_, ?_, ?_⟩
    · simp only [complete, hCall.trans hLogged, hLogged, logged, Builder.log, hRecord]
    · simp only [complete, hCall.trans hLogged, hLogged, logged, Builder.log, hRecord, hRaised]
    · rw [complete_events hLogged, hPlain, List.append_assoc]
    · rw [complete_events (hCall.trans hLogged), hMarked, List.append_assoc]
    · exact List.rel_append hAlike (.cons (.logged call) .nil)

/-- An application that sends a start with a status out of range, and passes over what that raises,
ends as it does without it: the same fault leaves the request, the same status and size are
recorded, and the sink is given the same. Its other messages come to the same and are handed over
as without it, but for the starts behind the rejected one, which have its fields and keys beside
their own. So a rejected start that has none of these leaves no trace. -/
theorem rejected_start_leaves_fields {s : Settings} {scope : Scope} (hLogged : IsLogged s scope)
    {request : Request} (hRequest : Request.ofScope scope = .ok request) {m : StartMessage}
    {status : Int} (hStatus : m.status = some status) (hRejected : status < 100 ∨ 599 < status)
    (n : Nat) (app : App) (outcomes : Nat → Option Fault) (clock : Clock) (sink : κ) :
    let point := app.reach Exchange.handle n (Exchange.begin outcomes)
    let plain := serve s clock scope app outcomes sink
    let marked := serve s clock scope (app.interject (.start m) n) outcomes sink
    marked.sink = plain.sink ∧ marked.raised = plain.raised ∧
    (conclude (observed (app.interject (.start m) n) outcomes)).exchange.status =
      (conclude (observed app outcomes)).exchange.status ∧
    (conclude (observed (app.interject (.start m) n) outcomes)).exchange.size =
      (conclude (observed app outcomes)).exchange.size ∧
    marked.replies =
      plain.replies.take n ++ some (.invalidStatus status) :: plain.replies.drop n ∧
    ∃ later later', plain.channel.events = point.channel.events ++ later ∧
      marked.channel.events = point.channel.events ++ later' ∧
      List.Forall₂ (Event.Alike (Burdened point.held m)) later later' ∧
      (m.headers.getD [] = [] → m.extra = [] → later' = later) := by
  have hRefused : Observer.isStatus status = false := by
    rw [Bool.eq_false_iff, ne_eq, Observer.isStatus_iff]
    omega
  intro point plain marked
  obtain ⟨hEnding, hReplies, hTrails⟩ :=
    App.run_interject_rejected hStatus hRefused n app (Exchange.begin outcomes)
  obtain ⟨-, -, -, hStep⟩ := conclude_trails hEnding hTrails
  obtain ⟨hSink, hRaised, later, later', hPlain, hMarked, hAlike⟩ :=
    complete_trails hEnding hTrails s request clock sink
  have hServePlain : plain = complete s request clock (observed app outcomes) sink :=
    serve_of_isLogged hLogged hRequest clock app outcomes sink
  have hServeMarked : marked =
      complete s request clock (observed (app.interject (.start m) n) outcomes) sink :=
    serve_of_isLogged hLogged hRequest clock _ outcomes sink
  rw [hServePlain, hServeMarked]
  refine ⟨hSink, hRaised, hStep.status, hStep.size, ?_, later, later', hPlain, hMarked, hAlike, ?_⟩
  · rw [(complete_reached s request clock _ sink).2, (complete_reached s request clock _ sink).2]
    exact hReplies
  · intro hHeaders hExtra
    exact Event.Alike.eq (fun _ _ => Burdened.eq_of_bare hHeaders hExtra) hAlike

/-- A start with a status out of range, and with a field and a key of its own. -/
def stray : StartMessage where
  status := some 42
  headers := some [(Headers.asciiName "set-cookie", Headers.asciiName "k=1")]
  extra := [("trailers".toList, .bool true)]

theorem stray_in_stubborn_leaves_fields :
    IsLogged {} plainScope ∧ Request.ofScope plainScope = .ok plainRequest ∧
    stray.status = some 42 ∧ ((42 : Int) < 100 ∨ (599 : Int) < 42) ∧
    (serve {} plainClock plainScope (stubborn.interject (.start stray) 1) resets
        ({} : MemorySink)).sink =
      (serve {} plainClock plainScope stubborn resets ({} : MemorySink)).sink ∧
    (serve {} plainClock plainScope (stubborn.interject (.start stray) 1) resets
        ({} : MemorySink)).replies.length =
      (serve {} plainClock plainScope stubborn resets ({} : MemorySink)).replies.length + 1 := by
  have hStatus : stray.status = some 42 := rfl
  have hRejected : (42 : Int) < 100 ∨ (599 : Int) < 42 := Or.inl (by decide)
  obtain ⟨hSink, -, -, -, hReplies, -⟩ :=
    rejected_start_leaves_fields isLogged_plainScope ofScope_plainScope hStatus hRejected 1 stubborn
      resets plainClock ({} : MemorySink)
  refine ⟨isLogged_plainScope, ofScope_plainScope, hStatus, hRejected, hSink, ?_⟩
  rw [hReplies, List.length_append, List.length_cons, List.length_take, List.length_drop]
  omega

/-- The starts that can follow a rejected one: the application's own, one that a piece of body
implies, and that of the error response. -/
def followers : List App :=
  [.sendThen (.start { status := some 200 }) (.finish none),
    .sendThen (.body { body := some [104, 105] }) (.finish none),
    .finish (some (.badValue "boom".toList))]

/-- What the rejected start carries is handed over with whichever start comes next. -/
theorem stray_reaches_followers :
    IsLogged {} plainScope ∧ Request.ofScope plainScope = .ok plainRequest ∧
    stray.status = some 42 ∧ Observer.isStatus 42 = false ∧
    ∀ app ∈ followers,
      (serve {} plainClock plainScope (app.interject (.start stray) 0) (fun _ => none)
          ({} : MemorySink)).channel.sent ≠
        (serve {} plainClock plainScope app (fun _ => none) ({} : MemorySink)).channel.sent := by
  refine ⟨isLogged_plainScope, ofScope_plainScope, rfl, by decide, ?_⟩
  decide +kernel

end AccessLog

end RequestLog

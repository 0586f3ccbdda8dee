import RequestLog.AccessLog
import RequestLog.Proofs.Response.Wire

/-!
# Operations on an exchange

What each operation of the observer over a channel writer does, told by what the channel answers.
Every change of the channel is one handing over of a message after another. A piece of body that
finds the response not started is the same piece after an implied start, if that was delivered.
-/

namespace RequestLog

namespace App

theorem faultOf_map {α β : Type} (f : α → β) (result : Except Fault α) :
    faultOf (result.map f) = faultOf result := by
  cases result <;> rfl

theorem faultOf_answer (outcome : Option Fault) : faultOf (Channel.answer outcome) = outcome := by
  cases outcome <;> rfl

end App

namespace Exchange

def hand (message : Message) (x : Exchange) : Exchange :=
  { x with writer := { x.writer with channel := (x.channel.send message).2 } }

@[simp] theorem channel_hand (message : Message) (x : Exchange) :
    (x.hand message).channel = (x.channel.send message).2 := rfl

def startMessage (status : Int) (x : Exchange) : Message := x.writer.startMessage status

@[simp] theorem startStatus?_startMessage (status : Int) (x : Exchange) :
    (x.startMessage status).startStatus? = some status := rfl

def begun (status : Int) (x : Exchange) : Exchange :=
  { x.hand (x.startMessage status) with
    writer := { (x.hand (x.startMessage status)).writer with started := true } }

@[simp] theorem channel_begun (status : Int) (x : Exchange) :
    (x.begun status).channel = (x.channel.send (x.startMessage status)).2 := rfl

@[simp] theorem started_begun (status : Int) (x : Exchange) :
    (x.begun status).writer.started = true := rfl

theorem writeHeader_of_refused {status : Int} (h : Observer.isStatus status = false)
    (x : Exchange) : x.writeHeader status = (.error (.invalidStatus status), x) := by
  rw [Observer.writeHeader, h]
  rfl

theorem writeHeader_of_delivered {status : Int} (h : Observer.isStatus status = true)
    {x : Exchange} (hOutcome : x.channel.outcome = none) :
    x.writeHeader status = (.ok (), { x.begun status with status? := some status }) := by
  have hWriter : ResponseWriter.writeHeader status x.writer =
      (.ok (), (x.begun status).writer) := by
    change ChannelWriter.writeHeader status x.writer = _
    simp only [ChannelWriter.writeHeader, Channel.send, show x.writer.channel.outcome = none from
      hOutcome, Channel.answer, begun, hand, startMessage, channel]
  rw [Observer.writeHeader, if_pos h, hWriter]
  rfl

theorem writeHeader_of_failed {status : Int} (h : Observer.isStatus status = true)
    {x : Exchange} {fault : Fault} (hOutcome : x.channel.outcome = some fault) :
    x.writeHeader status = (.error fault, x.hand (x.startMessage status)) := by
  have hWriter : ResponseWriter.writeHeader status x.writer =
      (.error fault, (x.hand (x.startMessage status)).writer) := by
    change ChannelWriter.writeHeader status x.writer = _
    simp only [ChannelWriter.writeHeader, Channel.send, show x.writer.channel.outcome = some fault
      from hOutcome, Channel.answer, hand, startMessage, channel]
  rw [Observer.writeHeader, if_pos h, hWriter]
  rfl

def wrote (data : Octets) (more : Bool) (result : Except Fault Int) (x : Exchange) : Exchange :=
  { hand (Message.bodyOf data more) x.settle with size := x.size + Observer.written result }

@[simp] theorem channel_wrote (data : Octets) (more : Bool) (result : Except Fault Int)
    (x : Exchange) :
    (x.wrote data more result).channel = (x.channel.send (Message.bodyOf data more)).2 := rfl

theorem write_of_started {x : Exchange} (h : x.writer.started = true) (data : Octets)
    (more : Bool) :
    x.write data more =
      ((Channel.answer x.channel.outcome).map fun _ => (data.length : Int),
        x.wrote data more
          ((Channel.answer x.channel.outcome).map fun _ => (data.length : Int))) := by
  have hWriter : ResponseWriter.write data more x.writer =
      ((Channel.answer x.channel.outcome).map fun _ => (data.length : Int),
        (x.hand (Message.bodyOf data more)).writer) := by
    change ChannelWriter.write data more x.writer = _
    rw [ChannelWriter.write, if_pos h, ChannelWriter.writeStarted]
    cases hOutcome : x.channel.outcome <;>
      simp only [Channel.send, show x.writer.channel.outcome = _ from hOutcome, Channel.answer,
        Except.map, hand, channel]
  rw [Observer.write, hWriter]
  rfl

theorem faultOf_write_of_started {x : Exchange} (h : x.writer.started = true) (data : Octets)
    (more : Bool) : App.faultOf (x.write data more).1 = x.channel.outcome := by
  rw [write_of_started h, App.faultOf_map, App.faultOf_answer]

theorem write_of_start_failed {x : Exchange} (h : x.writer.started = false) {fault : Fault}
    (hOutcome : x.channel.outcome = some fault) (data : Octets) (more : Bool) :
    x.write data more = (.error fault,
      { hand (x.startMessage Observer.impliedStatus) x.settle with
        size := x.size + fault.octetsWritten }) := by
  have hWriter : ResponseWriter.write data more x.writer =
      (.error fault, (x.hand (x.startMessage Observer.impliedStatus)).writer) := by
    change ChannelWriter.write data more x.writer = _
    simp only [ChannelWriter.write, h, Bool.false_eq_true, ↓reduceIte, ChannelWriter.writeHeader,
      Channel.send, show x.writer.channel.outcome = some fault from hOutcome, Channel.answer, hand,
      startMessage, channel]
    rfl
  rw [Observer.write, hWriter]
  rfl

theorem write_of_start_delivered {x : Exchange} (h : x.writer.started = false)
    (hOutcome : x.channel.outcome = none) (data : Octets) (more : Bool) :
    x.write data more = (x.begun Observer.impliedStatus).write data more := by
  have hWriter : ResponseWriter.write data more x.writer =
      ResponseWriter.write data more (x.begun Observer.impliedStatus).writer := by
    change ChannelWriter.write data more x.writer = ChannelWriter.write data more _
    rw [ChannelWriter.write, ChannelWriter.write, if_pos (started_begun _ _)]
    simp only [h, Bool.false_eq_true, ↓reduceIte, ChannelWriter.writeHeader,
      Channel.send, show x.writer.channel.outcome = none from hOutcome, Channel.answer, begun, hand,
      startMessage, channel]
    rfl
  rw [Observer.write, Observer.write, hWriter]
  rfl

theorem writeHeader_sends (status : Int) (x : Exchange) :
    x.channel.Sends (Exchange.channel (x.writeHeader status).2) := by
  cases hStatus : Observer.isStatus status with
  | false =>
    rw [writeHeader_of_refused hStatus]
    exact .refl
  | true =>
    cases hOutcome : x.channel.outcome with
    | none =>
      rw [writeHeader_of_delivered hStatus hOutcome]
      exact .send _ .refl
    | some fault =>
      rw [writeHeader_of_failed hStatus hOutcome]
      exact .send _ .refl

theorem write_sends (data : Octets) (more : Bool) (x : Exchange) :
    x.channel.Sends (Exchange.channel (x.write data more).2) := by
  cases hStarted : x.writer.started with
  | true =>
    rw [write_of_started hStarted]
    exact .send _ .refl
  | false =>
    cases hOutcome : x.channel.outcome with
    | none =>
      rw [write_of_start_delivered hStarted hOutcome, write_of_started rfl]
      exact .send _ (.send _ .refl)
    | some fault =>
      rw [write_of_start_failed hStarted hOutcome]
      exact .send _ .refl

theorem handle_start_of_none {m : StartMessage} (h : m.status = none) (x : Exchange) :
    x.handle (.start m) = (.error (.missingKey "status".toList), x.stage m) := by
  simp only [handle, sendStart, h]

theorem handle_start_of_some {m : StartMessage} {status : Int} (h : m.status = some status)
    (x : Exchange) : x.handle (.start m) = (x.stage m).writeHeader status := by
  simp only [handle, sendStart, h]

/-- Whatever the application sends reaches the channel by sends alone. -/
theorem handle_sends (message : Message) (x : Exchange) :
    x.channel.Sends (x.handle message).2.channel := by
  cases message with
  | start m =>
    cases hStatus : m.status with
    | none =>
      rw [handle_start_of_none hStatus]
      exact .refl
    | some status =>
      rw [handle_start_of_some hStatus]
      exact writeHeader_sends status (x.stage m)
  | body m => exact write_sends _ _ x
  | other kind fields =>
    cases kind with
    | none => exact .refl
    | some kind => exact .send _ .refl

end Exchange

end RequestLog

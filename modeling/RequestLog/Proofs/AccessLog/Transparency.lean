import RequestLog.Proofs.AccessLog.Order
import RequestLog.Proofs.Request.Target
import RequestLog.Proofs.Response.Conforming

/-!
# Transparency

Of a conforming response on a channel that never fails nothing changes on its way through the log:
each message is handed over in normal form as soon as it is sent, and no sending raises. What the
writer holds back of a start, its fields and keys, is empty until then, so the start goes out with
its own and no others.
-/

namespace RequestLog

def Channel.undisturbed : Channel := { outcomes := fun _ => none }

theorem Channel.isSmooth_undisturbed : undisturbed.IsSmooth := fun _ => rfl

namespace App

/-- An application on its own, none of whose sends fails. -/
def alone (app : App) : Run Channel := app.run Channel.send .undisturbed

def offered (app : App) : List Message := app.messages Channel.send .undisturbed

theorem run_of_isSmooth {c : Channel} (h : c.IsSmooth) (app : App) :
    (app.run Channel.send c).replies = (app.messages Channel.send c).map (fun _ => none) ∧
    (app.run Channel.send c).state.sent = c.sent ++ app.messages Channel.send c := by
  induction app generalizing c with
  | finish ending => exact ⟨rfl, (List.append_nil _).symm⟩
  | send message next ih =>
    have hReply : faultOf (c.send message).1 = none := by
      change faultOf (Channel.answer c.outcome) = none
      rw [h.outcome]
      rfl
    obtain ⟨hReplies, hSent⟩ := ih (faultOf (c.send message).1) (h.send message)
    constructor
    · exact congr (congrArg List.cons hReply) hReplies
    · refine hSent.trans ?_
      rw [Channel.sent_send, List.append_assoc]
      rfl

end App

namespace Exchange

/-- What has been sent was carried on in normal form, and nothing is held back before a start. -/
structure Carries (x : Exchange) (begun : Bool) (sent : List Message) : Prop where
  smooth : x.channel.IsSmooth
  sent : x.channel.sent = sent
  started : x.writer.started = begun
  known : x.wroteHeader = begun
  fresh : begun = false → x.writer.headers = [] ∧ x.writer.startFields = []

variable {x : Exchange} {begun : Bool} {sent : List Message}

theorem carries_begin : (begin fun _ => none).Carries false [] where
  smooth _ := rfl
  sent := rfl
  started := rfl
  known := rfl
  fresh _ := ⟨rfl, rfl⟩

theorem Carries.startMessage_stage (h : x.Carries false sent) {m : StartMessage}
    (hProper : m.IsProper) {status : Int} (hStatus : m.status = some status) :
    (x.stage m).startMessage status = (Message.start m).normal := by
  obtain ⟨hHeaders, hFields⟩ := h.fresh rfl
  change Message.startOf status (x.writer.headers ++ m.headers.getD [])
    ((x.writer.startFields.update m.extra).without ChannelWriter.ownKeys) = _
  rw [hHeaders, hFields, hProper.update_without, Message.startOf, ← hStatus]
  rfl

theorem Carries.handle_start (h : x.Carries false sent) {m : StartMessage}
    (hProper : m.IsProper) :
    (x.handle (.start m)).1 = .ok () ∧
    (x.handle (.start m)).2.Carries true (sent ++ [(Message.start m).normal]) := by
  obtain ⟨status, hStatus, hRange⟩ := hProper.status
  have hOutcome : (x.stage m).channel.outcome = none := h.smooth.outcome
  rw [handle_start_of_some hStatus, writeHeader_of_delivered hRange hOutcome]
  refine ⟨rfl, h.smooth, ?_, rfl, rfl, fun hFresh => Bool.noConfusion hFresh⟩
  change (x.channel.send ((x.stage m).startMessage status)).2.sent = _
  rw [Channel.sent_send, h.sent, h.startMessage_stage hProper hStatus]

theorem Carries.handle_body (h : x.Carries true sent) (m : BodyMessage) :
    (x.handle (.body m)).1 = .ok () ∧
    (x.handle (.body m)).2.Carries true (sent ++ [(Message.body m).normal]) := by
  have hHandle : x.handle (.body m) =
      ((Observer.write (m.body.getD []) (m.more.getD false) x).1.map fun _ => (),
        (Observer.write (m.body.getD []) (m.more.getD false) x).2) := rfl
  rw [hHandle, write_of_started h.started, h.smooth.outcome]
  refine ⟨rfl, h.smooth, ?_, h.started, rfl, fun hFresh => Bool.noConfusion hFresh⟩
  rw [channel_wrote, Channel.sent_send, h.sent]
  rfl

theorem Carries.handle_other (h : x.Carries begun sent) (kind : Text) (fields : Fields) :
    (x.handle (.other (some kind) fields)).1 = .ok () ∧
    (x.handle (.other (some kind) fields)).2.Carries begun
      (sent ++ [.other (some kind) fields]) := by
  constructor
  · change Channel.answer x.channel.outcome = .ok ()
    rw [h.smooth.outcome]
    rfl
  · refine ⟨h.smooth, ?_, h.started, h.known, h.fresh⟩
    change (x.channel.send (.other (some kind) fields)).2.sent = _
    rw [Channel.sent_send, h.sent]

theorem Carries.handle (h : x.Carries begun sent) {m : Message} {rest : List Message}
    (hConforms : Message.Conforms begun (m :: rest)) :
    (x.handle m).1 = .ok () ∧
    (x.handle m).2.Carries (begun || m.opens) (sent ++ [m.normal]) := by
  cases hConforms with
  | start proper following => exact h.handle_start proper
  | body following => exact h.handle_body _
  | @other begun kind fields rest following =>
    have hSame : (begun || (Message.other (some kind) fields).opens) = begun := Bool.or_false begun
    rw [hSame]
    exact h.handle_other kind fields

/-- Through the log the application meets what it meets on the channel alone, and so it goes on to
send the same messages. -/
theorem Carries.run (h : x.Carries begun sent) {c : Channel} (hSmooth : c.IsSmooth) {app : App}
    (hConforms : Message.Conforms begun (app.messages Channel.send c)) :
    (app.run Exchange.handle x).ending = (app.run Channel.send c).ending ∧
    (app.run Exchange.handle x).replies = (app.run Channel.send c).replies ∧
    (app.run Exchange.handle x).state.Carries
      (begun || (app.messages Channel.send c).any Message.opens)
      (sent ++ (app.messages Channel.send c).map Message.normal) := by
  induction app generalizing x c begun sent with
  | finish ending =>
    refine ⟨rfl, rfl, ?_⟩
    change x.Carries (begun || false) (sent ++ [])
    rwa [Bool.or_false, List.append_nil]
  | send message next ih =>
    obtain ⟨hHandled, hCarries⟩ := h.handle hConforms
    -- Both replies tell of no fault, so what the application sends next is the same.
    have hReply : App.faultOf (x.handle message).1 = App.faultOf (c.send message).1 := by
      change _ = App.faultOf (Channel.answer c.outcome)
      rw [hHandled, hSmooth.outcome]
      rfl
    obtain ⟨hEnding, hReplies, hRest⟩ :=
      ih (App.faultOf (c.send message).1) hCarries (hSmooth.send message) hConforms.following
    simp only [App.run, App.messages, hReply, List.any_cons, List.map_cons]
    refine ⟨hEnding, by rw [hReplies], ?_⟩
    rwa [Bool.or_assoc, List.append_assoc] at hRest

end Exchange

namespace AccessLog

variable {κ : Type} [Sink κ]

theorem complete_reached (s : Settings) (request : Request) (clock : Clock)
    (run : App.Run Exchange) (sink : κ) :
    (complete s request clock run sink).reached = true ∧
    (complete s request clock run sink).replies = run.replies := by
  cases hCall : (conclude run).call with
  | none => simp only [complete, hCall, and_self]
  | some call => simp only [complete, hCall, and_self]

/-- What a request hands over beyond what its application sent is the error response. -/
theorem complete_sent (s : Settings) (request : Request) (clock : Clock)
    (run : App.Run Exchange) (sink : κ) :
    ∃ answered, (complete s request clock run sink).channel.sent =
        run.state.channel.sent ++ answered ∧
      (run.ending = none ∨ run.state.wroteHeader = true → answered = []) := by
  have hSent : (complete s request clock run sink).channel.sent =
      (conclude run).exchange.channel.sent :=
    filterMap_complete (fun _ => rfl) s request clock run sink
  rw [hSent]
  by_cases hSilent : run.ending = none ∨ run.state.wroteHeader = true
  · have hSame : (conclude run).exchange = run.state := by
      rcases hSilent with hReturned | hKnown
      · rw [conclude_of_returned hReturned]
      · rcases conclude_exchange run with h | h
        · exact h
        · rw [h, answer_of_known hKnown]
    exact ⟨[], by rw [hSame, List.append_nil], fun _ => rfl⟩
  · rcases conclude_exchange run with h | h
    · exact ⟨[], by rw [h, List.append_nil], fun _ => rfl⟩
    · obtain ⟨answered, hAnswered⟩ := (answer_sends run.state).exists_sent
      exact ⟨answered, by rw [h, hAnswered], fun hSome => absurd hSome hSilent⟩

theorem serve_of_isExcluded {s : Settings} {scope : Scope} (hKind : scope.kind = some "http".toList)
    (h : isExcluded s scope = true) (clock : Clock) (app : App) (outcomes : Nat → Option Fault)
    (sink : κ) : serve s clock scope app outcomes sink = passThrough app outcomes sink := by
  simp only [serve, hKind, h, or_true, ↓reduceIte]

theorem reached_of_isComplete {scope : Scope} (h : scope.IsComplete)
    (hKind : scope.kind = some "http".toList) (s : Settings) (clock : Clock) (app : App)
    (outcomes : Nat → Option Fault) (sink : κ) :
    (serve s clock scope app outcomes sink).reached = true := by
  cases hExcluded : isExcluded s scope with
  | true =>
    rw [serve_of_isExcluded hKind hExcluded]
    rfl
  | false =>
    obtain ⟨request, hRequest⟩ := h.exists_request
    rw [serve_of_isLogged ⟨hKind, hExcluded⟩ hRequest]
    exact (complete_reached s request clock _ sink).1

/-- A conforming application on a channel that never fails is reached through the log, none of its
sends raises, and its messages are handed over one for one and in order. To an excluded path they go
as they are, to others in normal form; and only an application that raises before it opened its
response has anything added. -/
theorem conforming_response_unchanged {scope : Scope} (hKind : scope.kind = some "http".toList)
    {app : App} (hConforms : Message.Conforms false app.offered) (s : Settings) (clock : Clock)
    (sink : κ) :
    (scope.IsComplete → (serve s clock scope app (fun _ => none) sink).reached = true) ∧
    ((serve s clock scope app (fun _ => none) sink).reached = true →
      (serve s clock scope app (fun _ => none) sink).replies = app.offered.map (fun _ => none) ∧
      (isExcluded s scope = true →
        (serve s clock scope app (fun _ => none) sink).channel.sent = app.offered) ∧
      (isExcluded s scope = false → ∃ answered,
        (serve s clock scope app (fun _ => none) sink).channel.sent =
          app.offered.map Message.normal ++ answered ∧
        (app.alone.ending = none ∨ app.offered.any Message.opens = true → answered = []))) := by
  obtain ⟨hReplies, hSent⟩ := App.run_of_isSmooth Channel.isSmooth_undisturbed app
  refine ⟨fun h => reached_of_isComplete h hKind s clock app _ sink, ?_⟩
  intro hReached
  cases hExcluded : isExcluded s scope with
  | true =>
    rw [serve_of_isExcluded hKind hExcluded]
    exact ⟨hReplies, fun _ => hSent, fun h => Bool.noConfusion h⟩
  | false =>
    cases hRequest : Request.ofScope scope with
    | error fault =>
      simp [serve, hKind, hExcluded, hRequest, refused] at hReached
    | ok request =>
      rw [serve_of_isLogged ⟨hKind, hExcluded⟩ hRequest]
      obtain ⟨hEnding, hSame, hCarried⟩ :=
        Exchange.carries_begin.run Channel.isSmooth_undisturbed hConforms
      obtain ⟨answered, hAnswered, hSilent⟩ :=
        complete_sent s request clock (observed app fun _ => none) sink
      refine ⟨?_, fun h => Bool.noConfusion h, fun _ => ⟨answered, ?_, ?_⟩⟩
      · rw [(complete_reached s request clock _ sink).2]
        exact hSame.trans hReplies
      · exact hAnswered.trans (congrArg (· ++ answered) hCarried.sent)
      · rintro (hReturned | hOpened)
        · exact hSilent (Or.inl (hEnding.trans hReturned))
        · exact hSilent (Or.inr (hCarried.known.trans hOpened))

/-- A start with a repeated field and a key of its own, pieces of body with keys left out, other
messages around them, and a fault in the end. -/
def courteous : App :=
  .sendThen (.other (some "http.response.push".toList) [("path".toList, .text "/style".toList)]) <|
    .sendThen (.start {
      status := some 404
      headers := some [([97], [49]), ([97], [50])]
      extra := [("trailers".toList, .bool true)] }) <|
    .sendThen (.body { more := some true, extra := [("note".toList, .null)] }) <|
    .sendThen (.other (some "http.response.debug".toList) []) <|
    .sendThen (.body { body := some [104, 105] }) (.finish (some (.badValue "boom".toList)))

theorem courteous_unchanged :
    Message.Conforms false courteous.offered ∧ plainScope.IsComplete ∧
    plainScope.kind = some "http".toList ∧ courteous.offered.length = 5 ∧
    (serve {} plainClock plainScope courteous (fun _ => none) ({} : MemorySink)).replies =
      courteous.offered.map (fun _ => none) ∧
    (serve {} plainClock plainScope courteous (fun _ => none) ({} : MemorySink)).channel.sent =
      courteous.offered.map Message.normal := by
  have hConforms : Message.Conforms false courteous.offered :=
    .other (.start ⟨⟨404, rfl, rfl⟩, by decide, by decide⟩ (.body (.other (.body .done))))
  have hComplete : plainScope.IsComplete := ⟨Or.inl rfl, ⟨_, rfl⟩, ⟨_, rfl⟩, ⟨_, rfl⟩⟩
  have hKind : plainScope.kind = some "http".toList := rfl
  obtain ⟨hReached, hUnchanged⟩ :=
    conforming_response_unchanged hKind hConforms {} plainClock ({} : MemorySink)
  obtain ⟨hReplies, -, hLogged⟩ := hUnchanged (hReached hComplete)
  obtain ⟨answered, hSent, hSilent⟩ := hLogged (by decide +kernel)
  refine ⟨hConforms, hComplete, hKind, rfl, hReplies, ?_⟩
  rw [hSent, hSilent (Or.inr rfl), List.append_nil]

end AccessLog

end RequestLog

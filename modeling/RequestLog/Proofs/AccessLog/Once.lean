import RequestLog.Proofs.AccessLog.Course
import RequestLog.Proofs.Builder.Draft

/-!
# One call for each request

A request that is logged ends with one call, after the last message was handed over, and the record
that this call can make is all that the sink is given. A request of another kind or to an excluded
path leaves no call and an untouched sink, and so does a request whose application fails with a
fault that cannot be told.
-/

namespace RequestLog.AccessLog

variable {κ : Type}

/-- A request that goes through the log: one of the right kind whose path is not excluded. -/
def IsLogged (s : Settings) (scope : Scope) : Prop :=
  scope.kind = some "http".toList ∧ isExcluded s scope = false

def observed (app : App) (outcomes : Nat → Option Fault) : App.Run Exchange :=
  app.run Exchange.handle (Exchange.begin outcomes)

theorem passThrough_calls (app : App) (outcomes : Nat → Option Fault) (sink : κ) :
    (passThrough app outcomes sink).channel.calls = [] := by
  have hSends : Channel.Sends { outcomes := outcomes }
      (app.run (fun m (c : Channel) => c.send m) { outcomes := outcomes }).state :=
    App.run_invariant (P := Channel.Sends { outcomes := outcomes })
      (fun message _ h => .send message h) app .refl
  exact hSends.calls_eq

variable [Sink κ]

theorem serve_of_not_isLogged {s : Settings} {scope : Scope} (h : ¬IsLogged s scope)
    (clock : Clock) (app : App) (outcomes : Nat → Option Fault) (sink : κ) :
    (serve s clock scope app outcomes sink).channel.calls = [] ∧
    (serve s clock scope app outcomes sink).sink = sink := by
  unfold serve
  cases hKind : scope.kind with
  | none => exact ⟨rfl, rfl⟩
  | some kind =>
    have hPass : kind ≠ "http".toList ∨ isExcluded s scope = true := by
      by_cases hHttp : kind = "http".toList
      · cases hExcluded : isExcluded s scope with
        | true => exact Or.inr rfl
        | false => exact absurd ⟨by rw [hKind, hHttp], hExcluded⟩ h
      · exact Or.inl hHttp
    simp only [hPass, ↓reduceIte]
    exact ⟨passThrough_calls app outcomes sink, rfl⟩

theorem serve_of_isLogged {s : Settings} {scope : Scope} (h : IsLogged s scope)
    {request : Request} (hRequest : Request.ofScope scope = .ok request) (clock : Clock) (app : App)
    (outcomes : Nat → Option Fault) (sink : κ) :
    serve s clock scope app outcomes sink =
      complete s request clock (observed app outcomes) sink := by
  obtain ⟨hKind, hIncluded⟩ := h
  simp only [serve, hKind, hIncluded, ne_eq, not_true_eq_false, Bool.false_eq_true, or_self,
    ↓reduceIte, hRequest]
  rfl

theorem complete_events {run : App.Run Exchange} {call : LogCall}
    (h : (conclude run).call = some call) (s : Settings) (request : Request) (clock : Clock)
    (sink : κ) :
    (complete s request clock run sink).channel.events =
      (conclude run).exchange.channel.events ++ [.logged call] := by
  simp only [complete, h]
  rfl

theorem complete_sink {run : App.Run Exchange} {call : LogCall}
    (h : (conclude run).call = some call) {s : Settings} {request : Request} {clock : Clock}
    {record : LogRecord}
    (hRecord : Builder.recordFor s request (conclude run).exchange clock call = .ok record)
    (sink : κ) :
    (complete s request clock run sink).sink =
      (Sink.emit (Builder.emission call) record sink).2 := by
  simp only [complete, h, logged, Builder.log, hRecord]
  split
  · next sink' hEmit => rw [hEmit]
  · next fault sink' hEmit => rw [hEmit]

/-- A record that cannot be made leaves the sink alone. -/
theorem complete_memory (s : Settings) (request : Request) (clock : Clock)
    (run : App.Run Exchange) (memory : MemorySink) :
    (complete s request clock run memory).sink = memory ∨
      ∃ call record,
        Builder.recordFor s request (conclude run).exchange clock call = .ok record ∧
        (complete s request clock run memory).sink =
          memory.keep (Builder.emission call) record := by
  cases hCall : (conclude run).call with
  | none => exact Or.inl (by simp only [complete, hCall])
  | some call =>
    cases hRecord : Builder.recordFor s request (conclude run).exchange clock call with
    | error fault =>
      exact Or.inl (by simp only [complete, hCall, logged, Builder.log, hRecord])
    | ok record => exact Or.inr ⟨call, record, hRecord, complete_sink hCall hRecord memory⟩

/-- What a request hands over is what its conclusion did, whether or not it is logged. -/
theorem complete_handed (s : Settings) (request : Request) (clock : Clock)
    (run : App.Run Exchange) (sink : κ) :
    ∃ calls : List LogCall, (complete s request clock run sink).channel.events =
      (conclude run).exchange.channel.events ++ calls.map .logged := by
  cases hCall : (conclude run).call with
  | none => exact ⟨[], by simp [complete, hCall]⟩
  | some call => exact ⟨[call], complete_events hCall s request clock sink⟩

theorem filterMap_complete {β : Type} {f : Event → Option β} (h : ∀ call, f (.logged call) = none)
    (s : Settings) (request : Request) (clock : Clock) (run : App.Run Exchange) (sink : κ) :
    (complete s request clock run sink).channel.events.filterMap f =
      (conclude run).exchange.channel.events.filterMap f := by
  obtain ⟨calls, hEvents⟩ := complete_handed s request clock run sink
  have hCalls : (calls.map Event.logged).filterMap f = [] := by simp [h]
  rw [hEvents, List.filterMap_append, hCalls, List.append_nil]

theorem complete_delivered (s : Settings) (request : Request) (clock : Clock)
    (run : App.Run Exchange) (sink : κ) :
    (complete s request clock run sink).channel.delivered =
      (conclude run).exchange.channel.delivered :=
  filterMap_complete (fun _ => rfl) s request clock run sink

theorem serve_cases (s : Settings) (clock : Clock) (scope : Scope) (app : App)
    (outcomes : Nat → Option Fault) (sink : κ) :
    (serve s clock scope app outcomes sink).sink = sink ∨
      ∃ request, serve s clock scope app outcomes sink =
        complete s request clock (observed app outcomes) sink := by
  by_cases hLogged : IsLogged s scope
  · cases hRequest : Request.ofScope scope with
    | error fault =>
      left
      obtain ⟨hKind, hIncluded⟩ := hLogged
      simp only [serve, hKind, hIncluded, ne_eq, not_true_eq_false, Bool.false_eq_true, or_self,
        ↓reduceIte, hRequest]
      rfl
    | ok request =>
      exact Or.inr ⟨request, serve_of_isLogged hLogged hRequest clock app outcomes sink⟩
  · exact Or.inl (serve_of_not_isLogged hLogged clock app outcomes sink).2

/-- Only a return is logged as an access. -/
theorem conclude_call {run : App.Run Exchange} (h : ∀ fault, run.ending = some fault → IsTold fault) :
    ∃ call, (conclude run).call = some call ∧ (call = .access ↔ run.ending = none) := by
  cases hEnding : run.ending with
  | none => exact ⟨.access, by rw [conclude_of_returned hEnding], by simp⟩
  | some fault =>
    rcases h fault hEnding with hCancelled | ⟨hOrdinary, detail, hDetail⟩
    · exact ⟨.error cancelledDetail, by rw [conclude_of_cancelled hEnding hCancelled], by simp⟩
    · exact ⟨.error detail, (conclude_of_told hEnding hOrdinary hDetail).2.1, by simp⟩

theorem observed_calls (app : App) (outcomes : Nat → Option Fault) :
    (conclude (observed app outcomes)).exchange.channel.calls = [] :=
  (conclude_sends app (Exchange.begin outcomes)).calls_eq

theorem complete_of_untold {run : App.Run Exchange} {fault cause : Fault}
    (hEnding : run.ending = some fault) (hOrdinary : fault.disposition = .ordinary)
    (hDetail : fault.detail = .error cause) (s : Settings) (request : Request) (clock : Clock)
    (sink : κ) :
    complete s request clock run sink =
      ⟨some cause, run.state.channel, run.replies, false, sink, true⟩ := by
  rw [complete, conclude_of_untold hEnding hOrdinary hDetail]

/-- A request that is not to be logged leaves no call and an untouched sink. Any other ends with one
call, and the record that this call makes is what the sink has besides, in the list of its kind. Only
a fault that cannot be told goes without a call; then nothing is answered either, and the fault of
making its detail leaves the request. -/
theorem serve_logs_once (s : Settings) (clock : Clock) (scope : Scope) (app : App)
    (outcomes : Nat → Option Fault) (sink : κ) (memory : MemorySink) :
    (¬IsLogged s scope → (serve s clock scope app outcomes sink).channel.calls = [] ∧
      (serve s clock scope app outcomes sink).sink = sink) ∧
    ∀ request, IsLogged s scope → Request.ofScope scope = .ok request →
      ((∀ fault, (observed app outcomes).ending = some fault → IsTold fault) →
        ∃ call handed,
          (serve s clock scope app outcomes sink).channel.events = handed ++ [.logged call] ∧
          (∀ event ∈ handed, event.call? = none) ∧
          (call = .access ↔ (observed app outcomes).ending = none) ∧
          ∀ record, Builder.recordFor s request (conclude (observed app outcomes)).exchange clock
              call = .ok record →
            (serve s clock scope app outcomes sink).sink =
              (Sink.emit (Builder.emission call) record sink).2 ∧
            (call = .access → (∃ access, record = .access access) ∧
              (serve s clock scope app outcomes memory).sink.access =
                memory.access ++ [record] ∧
              (serve s clock scope app outcomes memory).sink.errors = memory.errors) ∧
            (∀ detail, call = .error detail → (∃ error, record = .error error) ∧
              (serve s clock scope app outcomes memory).sink.access = memory.access ∧
              (serve s clock scope app outcomes memory).sink.errors =
                memory.errors ++ [record])) ∧
      ∀ fault cause, (observed app outcomes).ending = some fault →
        fault.disposition = .ordinary → fault.detail = .error cause →
        (serve s clock scope app outcomes sink).channel =
          (observed app outcomes).state.channel ∧
        (serve s clock scope app outcomes sink).channel.calls = [] ∧
        (serve s clock scope app outcomes sink).sink = sink ∧
        (serve s clock scope app outcomes sink).raised = some cause := by
  refine ⟨fun h => serve_of_not_isLogged h clock app outcomes sink, ?_⟩
  intro request hLogged hRequest
  rw [serve_of_isLogged hLogged hRequest, serve_of_isLogged hLogged hRequest]
  constructor
  · intro hTold
    obtain ⟨call, hCall, hAccess⟩ := conclude_call hTold
    refine ⟨call, _, complete_events hCall s request clock sink, ?_, hAccess, ?_⟩
    · exact List.filterMap_eq_nil_iff.mp (observed_calls app outcomes)
    · intro record hRecord
      have hKept : (complete s request clock (observed app outcomes) memory).sink =
          memory.keep (Builder.emission call) record := complete_sink hCall hRecord memory
      obtain ⟨base, -, rfl⟩ := Builder.recordFor_eq_ok_iff.mp hRecord
      refine ⟨complete_sink hCall hRecord sink, ?_, ?_⟩
      · rintro rfl
        rw [hKept]
        exact ⟨⟨base, rfl⟩, MemorySink.access_keep_access _ _, MemorySink.errors_keep_access _ _⟩
      · rintro detail rfl
        rw [hKept]
        exact ⟨⟨_, rfl⟩, MemorySink.access_keep_error _ _, MemorySink.errors_keep_error _ _⟩
  · intro fault cause hEnding hOrdinary hDetail
    rw [complete_of_untold hEnding hOrdinary hDetail]
    exact ⟨rfl, (run_sends app (Exchange.begin outcomes)).calls_eq, rfl, rfl⟩

def plainScope : Scope where
  kind := some "http".toList
  method := some "GET".toList
  path := some "/a".toList
  headers := some []

def plainRequest : Request where
  method := "GET".toList
  url := "/a".toList
  proto := Request.defaultProto
  remoteAddress := []
  headers := []

def plainClock : Clock := ⟨⟨2024, 1, 15, 12, 0, 0, 0, some 0⟩, 0.5, 2.25⟩

theorem isLogged_plainScope : IsLogged {} plainScope := ⟨rfl, by decide +kernel⟩

theorem ofScope_plainScope : Request.ofScope plainScope = .ok plainRequest := by rfl

/-- A start that is refused, a piece of body whose start fails, and a fault in the end. -/
def stubborn : App :=
  .send (.start { status := some 42 }) fun _ =>
    .send (.body { body := some [104, 105] }) fun _ => .finish (some (.badValue "boom".toList))

def resets (n : Nat) : Option Fault :=
  if n = 0 then some (.raised (.system .connectionReset) [] none) else none

theorem stubborn_logged_once :
    IsLogged {} plainScope ∧ Request.ofScope plainScope = .ok plainRequest ∧
    (∀ fault, (observed stubborn resets).ending = some fault → IsTold fault) ∧
    ∃ record,
      Builder.recordFor {} plainRequest (conclude (observed stubborn resets)).exchange plainClock
        (.error "ValueError: boom".toList) = .ok record ∧
      (serve {} plainClock plainScope stubborn resets ({} : MemorySink)).sink.access = [] ∧
      (serve {} plainClock plainScope stubborn resets ({} : MemorySink)).sink.errors =
        [record] := by
  have hOrdinary : (observed stubborn resets).ending = some (.badValue "boom".toList) := by rfl
  have hTold (fault : Fault) (h : (observed stubborn resets).ending = some fault) :
      IsTold fault := by
    obtain rfl := Option.some.inj (hOrdinary.symm.trans h)
    exact Or.inr ⟨rfl, _, rfl⟩
  obtain ⟨call, handed, hEvents, -, -, hSink⟩ :=
    ((serve_logs_once {} plainClock plainScope stubborn resets ({} : MemorySink) {}).2
      plainRequest isLogged_plainScope ofScope_plainScope).1 hTold
  have hLast : (serve {} plainClock plainScope stubborn resets
      ({} : MemorySink)).channel.events.getLast? =
        some (.logged (.error "ValueError: boom".toList)) := by
    decide +kernel
  rw [hEvents, List.getLast?_concat, Option.some.injEq, Event.logged.injEq] at hLast
  subst hLast
  have hSome : (Builder.recordFor {} plainRequest (conclude (observed stubborn resets)).exchange
      plainClock (.error "ValueError: boom".toList)).toOption.isSome = true := by
    decide +kernel
  obtain ⟨record, hRecord⟩ := Except.exists_ok_of_isSome hSome
  obtain ⟨-, -, hError⟩ := hSink record hRecord
  obtain ⟨-, hAccess, hErrors⟩ := hError _ rfl
  exact ⟨isLogged_plainScope, ofScope_plainScope, hTold, record, hRecord, hAccess, hErrors⟩

/-- An application that fails at once, with a fault that cannot tell its message. -/
def speechless : App :=
  .finish (some (.mute .exception none (.raised .runtime [.text "no text".toList] none)))

def fullSink : RefusingSink MemorySink where
  refusal := some (.badValue "full".toList)
  inner := {}

/-- The record could be made and the sink goes without it: for a fault that cannot be told nothing is
called at all, and a sink that refuses its record keeps nothing. -/
theorem makable_record_missing :
    IsLogged {} plainScope ∧ Request.ofScope plainScope = .ok plainRequest ∧
    ((∃ fault, (observed speechless fun _ => none).ending = some fault ∧
        fault.disposition = .ordinary) ∧
      (Builder.build {} plainRequest (conclude (observed speechless fun _ => none)).exchange
        plainClock).toOption.isSome = true ∧
      (serve {} plainClock plainScope speechless (fun _ => none)
        ({} : MemorySink)).channel.calls = [] ∧
      (serve {} plainClock plainScope speechless (fun _ => none)
        ({} : MemorySink)).sink.records = []) ∧
    ((observed (.finish none) fun _ => none).ending = none ∧
      (Builder.build {} plainRequest (conclude (observed (.finish none) fun _ => none)).exchange
        plainClock).toOption.isSome = true ∧
      (serve {} plainClock plainScope (.finish none) (fun _ => none)
        fullSink).sink.inner.records = []) := by
  refine ⟨isLogged_plainScope, ofScope_plainScope, ⟨⟨_, rfl, rfl⟩, ?_, rfl, rfl⟩, rfl, ?_, ?_⟩
  · decide +kernel
  · decide +kernel
  · decide +kernel

end RequestLog.AccessLog

import RequestLog.Proofs.AccessLog.Once
import RequestLog.Proofs.AccessLog.Range
import RequestLog.Proofs.Identity
import RequestLog.Proofs.Redaction.Reading
import RequestLog.Proofs.Redaction.Secrecy
import RequestLog.Proofs.Request.Url

/-!
# Presence of a record

A request of a regular scope that is answered without faults leaves its record unless it suppresses
it. It does so exactly by credentials that are not ASCII when its query names nobody: the fault of
reading them is then all that is left of a finished response.
-/

namespace RequestLog

/-- The query names nobody, and the credentials that are looked at instead are not ASCII. -/
def Request.SuppressesRecord (s : Settings) (r : Request) : Prop :=
  Query.firstValue? s.usernameParam r.items = none ∧ r.HasStrayCredentials

namespace Builder

variable {σ : Type} {s : Settings} {r : Request} {o : Observer σ} {clock : Clock}

theorem resolve_redacted {p : Uri.Parts} (hRead : Uri.read r.url = .ok p)
    (hForm : p.WellFormed) (hLocated : p.IsLocated) (hUser : p.username? = none)
    (hParam : s.usernameParam ∉ s.redactedParams) :
    ∃ url parts, Redaction.redact s.redactedParams s.redactionMarker r.url = .ok url ∧
      Uri.read url = .ok parts ∧
      (r.SuppressesRecord s →
        Identity.resolve r url s.usernameParam = .error (.credentials .notAscii)) ∧
      (¬r.SuppressesRecord s → ∃ user, Identity.resolve r url s.usernameParam = .ok user) := by
  obtain ⟨url, hRedact, hRedacted⟩ :=
    Redaction.read_redact hRead hForm hLocated s.redactedParams s.redactionMarker
  refine ⟨url, _, hRedact, hRedacted, ?_⟩
  have hResolve := Identity.resolve_of_read hRedacted r s.usernameParam
  have hItems : r.items = Query.items p.query := by
    rw [Request.items, (Uri.read_eq_ok_iff.mp hRead).2]
  have hFirst := Redaction.firstValue?_redactedQuery hParam s.redactionMarker p.query
  rw [← Redaction.query_partsAfter] at hFirst
  rw [hResolve, Request.SuppressesRecord, hItems]
  cases hNamed : Query.firstValue? s.usernameParam (Query.items p.query) with
  | some user =>
    rw [hNamed] at hFirst
    rw [Identity.ofParts_of_named hFirst]
    exact ⟨fun h => absurd h.1 (by simp), fun _ => ⟨user, rfl⟩⟩
  | none =>
    rw [hNamed] at hFirst
    have hStill := (Redaction.username?_partsAfter s.redactedParams s.redactionMarker p).trans hUser
    rw [Identity.ofParts_of_anonymous hFirst hStill, Identity.credentialsUser]
    constructor
    · rintro ⟨-, hStray⟩
      rw [Request.credentials_of_stray hStray]
      rfl
    · intro h
      obtain ⟨found, hFound⟩ := Request.credentials_of_not_stray fun hStray => h ⟨rfl, hStray⟩
      rw [hFound]
      exact ⟨_, rfl⟩

theorem draft_of_unresolved {url : Text}
    (hUrl : Redaction.redact s.redactedParams s.redactionMarker r.url = .ok url) {fault : Fault}
    (hUser : Identity.resolve r url s.usernameParam = .error fault) :
    draft s r o clock = .error fault := by
  rw [draft, hUrl]
  change (Identity.resolve r url s.usernameParam >>= _) = _
  rw [hUser]
  rfl

theorem exists_draft {url user requestId : Text} {parts : Uri.Parts} {elapsed : Int}
    (hUrl : Redaction.redact s.redactedParams s.redactionMarker r.url = .ok url)
    (hUser : Identity.resolve r url s.usernameParam = .ok user) (hParts : Uri.read url = .ok parts)
    (hId : r.namedHeader s.requestIdHeader = .ok requestId) (hClock : clock.elapsed = .ok elapsed)
    (o : Observer σ) : ∃ d, draft s r o clock = .ok d :=
  ⟨_, draft_eq_ok_iff.mpr ⟨url, user, parts, requestId, elapsed, hUrl, hUser, hParts, hId, hClock,
    rfl⟩⟩

theorem log_of_draft_error {fault : Fault} (h : draft s r o clock = .error fault)
    (memory : MemorySink) : log s r o clock .access memory = (.error fault, memory) := by
  have hRecord : recordFor s r o clock .access = .error fault := by
    rw [recordFor, build, h]
    rfl
  rw [log, hRecord]

theorem log_of_draft_ok {d : Record.Draft} (h : draft s r o clock = .ok d)
    (hStatus : 100 ≤ o.status ∧ o.status ≤ 599) (hSize : 0 ≤ o.size) (memory : MemorySink) :
    ∃ record, log s r o clock .access memory =
      (.ok (.access record), memory.keep .access (.access record)) := by
  obtain ⟨hStatusEq, hSizeEq⟩ := draft_observed h
  obtain ⟨record, hCheck⟩ := Record.Draft.check_of_range (d := d) (by rwa [hStatusEq])
    (by rwa [hSizeEq])
  have hDraft := Record.Draft.check_eq_ok_iff.mp hCheck
  have hBuild : build s r o clock = .ok record := build_eq_ok_iff.mpr (by rw [hDraft, h])
  have hRecord : recordFor s r o clock .access = .ok (.access record) := by
    rw [recordFor, hBuild]
    rfl
  exact ⟨record, by rw [log, hRecord]; rfl⟩

end Builder

namespace AccessLog

theorem complete_of_returned {run : App.Run Exchange} (h : run.ending = none) (s : Settings)
    (r : Request) (clock : Clock) (memory : MemorySink) :
    (complete s r clock run memory).raised =
      App.faultOf (Builder.log s r run.state clock .access memory).1 ∧
    (complete s r clock run memory).sink =
      (Builder.log s r run.state clock .access memory).2 := by
  rw [complete, conclude_of_returned h]
  exact ⟨Option.or_none, rfl⟩

theorem isLogged_of_isRegular {scope : Scope} (h : scope.IsRegular) : IsLogged {} scope := by
  refine ⟨h.kind, ?_⟩
  obtain ⟨path, hPath⟩ := h.path
  rw [isExcluded, hPath]
  rfl

/-- A regular request that is answered without faults keeps its record unless it suppresses it. -/
theorem record_kept_or_suppressed {scope : Scope} (h : scope.IsRegular) {clock : Clock}
    {elapsed : Int} (hClock : clock.elapsed = .ok elapsed) {app : App}
    (hReturned : (observed app fun _ => none).ending = none) (memory : MemorySink) :
    ∃ request, Request.ofScope scope = .ok request ∧
      (¬request.SuppressesRecord {} →
        (serve {} clock scope app (fun _ => none) memory).raised = none ∧
        (serve {} clock scope app (fun _ => none) memory).sink.errors = memory.errors ∧
        ∃ record, (serve {} clock scope app (fun _ => none) memory).sink.access =
          memory.access ++ [.access record]) ∧
      (request.SuppressesRecord {} →
        (serve {} clock scope app (fun _ => none) memory).raised =
          some (.credentials .notAscii) ∧
        (serve {} clock scope app (fun _ => none) memory).sink = memory) := by
  obtain ⟨request, p, hRequest, hRead, hForm, hLocated, hUser⟩ := h.exists_request
  refine ⟨request, hRequest, ?_⟩
  rw [serve_of_isLogged (isLogged_of_isRegular h) hRequest]
  obtain ⟨hRaised, hSink⟩ := complete_of_returned hReturned {} request clock memory
  rw [hRaised, hSink]
  have hParam : ({} : Settings).usernameParam ∉ ({} : Settings).redactedParams := by decide
  obtain ⟨url, parts, hRedact, hParts, hSuppressed, hResolved⟩ :=
    Builder.resolve_redacted hRead hForm hLocated hUser hParam
  constructor
  · intro hKept
    obtain ⟨user, hUserOk⟩ := hResolved hKept
    have hId : request.namedHeader ({} : Settings).requestIdHeader =
        .ok ((request.header? "request-id").getD []) := rfl
    obtain ⟨d, hDraft⟩ := Builder.exists_draft hRedact hUserOk hParts hId hClock
      (observed app fun _ => none).state
    have hBegin : (Exchange.begin fun _ => none).InRange := Exchange.inRange_begin (by simp)
    have hRange : (observed app fun _ => none).state.InRange := hBegin.run app
    obtain ⟨record, hLog⟩ := Builder.log_of_draft_ok hDraft hRange.status hRange.size memory
    rw [hLog]
    exact ⟨rfl, MemorySink.errors_keep_access _ _, record, MemorySink.access_keep_access _ _⟩
  · intro hLost
    rw [Builder.log_of_draft_error (Builder.draft_of_unresolved hRedact (hSuppressed hLost))]
    exact ⟨rfl, rfl⟩

def credentialFields (authorization : Octets) : Headers :=
  [(Headers.asciiName "host", Headers.asciiName "example.com"),
    (Headers.asciiName "authorization", authorization)]

theorem first?_credentialFields (authorization : Octets) :
    (credentialFields authorization).first? (Headers.asciiName "authorization") =
      some (Latin1.decode authorization) := rfl

def credentialScope (authorization : Octets) : Scope where
  kind := some "http".toList
  httpVersion := some (.text "1.1".toList)
  method := some "GET".toList
  scheme := some "http".toList
  path := some "/".toList
  rawPath := some (Headers.asciiName "/")
  queryString := some []
  headers := some (credentialFields authorization)

theorem isRegular_credentialScope (authorization : Octets) :
    (credentialScope authorization).IsRegular where
  kind := rfl
  scheme := Or.inl rfl
  method := ⟨_, rfl⟩
  path := ⟨_, rfl⟩
  host := ⟨_, "example.com".toList, rfl, rfl, by decide⟩

def greeting : App :=
  .sendThen (.startOf 200 [] []) (.sendThen (.bodyOf [111, 107] false) (.finish none))

theorem plain_credentials_keep_record :
    (serve {} plainClock (credentialScope (Headers.asciiName "Basic Ym9iOnB3")) greeting
      (fun _ => none) ({} : MemorySink)).raised = none ∧
    (serve {} plainClock (credentialScope (Headers.asciiName "Basic Ym9iOnB3")) greeting
      (fun _ => none) ({} : MemorySink)).sink.errors = [] ∧
    ∃ record, (serve {} plainClock (credentialScope (Headers.asciiName "Basic Ym9iOnB3")) greeting
      (fun _ => none) ({} : MemorySink)).sink.access = [.access record] := by
  have hClock : plainClock.elapsed = .ok 1750000 := by rfl
  obtain ⟨request, hRequest, hKept, -⟩ := record_kept_or_suppressed
    (isRegular_credentialScope (Headers.asciiName "Basic Ym9iOnB3")) hClock
    (show (observed greeting fun _ => none).ending = none from rfl) {}
  refine hKept ?_
  rintro ⟨-, hStray⟩
  obtain ⟨_, _, headers, _, -, -, hHeaders, -, rfl⟩ := Scope.ofScope_eq_ok_iff.mp hRequest
  obtain rfl := Option.some.inj hHeaders
  refine Request.not_hasStrayCredentials ?_ hStray
  intro value hHeader
  obtain rfl := Option.some.inj ((first?_credentialFields _).symm.trans hHeader)
  have hAscii : ((Latin1.decode (Headers.asciiName "Basic Ym9iOnB3")).all
      fun c => c.toNat < 128) = true := by
    decide
  intro c hc
  exact of_decide_eq_true (List.all_eq_true.mp hAscii c hc)

/-- A finished response is lost from the log, and its fault is the one of the credentials. -/
theorem stray_credentials_suppress_record :
    (credentialScope (Headers.asciiName "Basic é")).IsRegular ∧
    plainClock.elapsed = .ok 1750000 ∧
    (observed greeting fun _ => none).ending = none ∧
    (serve {} plainClock (credentialScope (Headers.asciiName "Basic é")) greeting
      (fun _ => none) ({} : MemorySink)).raised = some (.credentials .notAscii) ∧
    (serve {} plainClock (credentialScope (Headers.asciiName "Basic é")) greeting
      (fun _ => none) ({} : MemorySink)).sink.records = [] := by
  refine ⟨isRegular_credentialScope _, by rfl, rfl, ?_, ?_⟩
  · decide +kernel
  · decide +kernel

end AccessLog

end RequestLog

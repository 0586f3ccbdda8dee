import RequestLog.Builder

/-!
# Drafts and records

A draft exists exactly when the URL can be redacted and read, the user resolved, the named header
found and the clock read; its fields are then what these steps gave. A record is a draft whose
status and size passed their checks, so a record and its draft determine each other. A draft looks
at the URL of a request only through redaction.
-/

namespace RequestLog

theorem Except.exists_ok_of_isSome {ε α : Type} {x : Except ε α}
    (h : x.toOption.isSome = true) : ∃ a, x = .ok a := by
  cases x with
  | error e => contradiction
  | ok a => exact ⟨a, rfl⟩

theorem Except.eq_ok_of_toOption_eq_some {ε α : Type} {x : Except ε α} {a : α}
    (h : x.toOption = some a) : x = .ok a := by
  cases x with
  | error e => cases h
  | ok b =>
    cases h
    rfl

def AccessRecord.draft (r : AccessRecord) : Record.Draft where
  host := r.host
  user := r.user
  start := r.start
  method := r.method
  uri := r.uri
  proto := r.proto
  status := r.status
  size := r.size
  referrer := r.referrer
  userAgent := r.userAgent
  requestId := r.requestId
  elapsed := r.elapsed

namespace Record

theorem status_of_range {n : Int} (h : 100 ≤ n ∧ n ≤ 599) : ∃ checked, status n = .ok checked := by
  refine ⟨⟨n.toNat, by omega⟩, status_eq_ok_iff.mpr ?_⟩
  change n = ((n.toNat : Nat) : Int)
  omega

theorem size_of_nonneg {n : Int} (h : 0 ≤ n) : ∃ checked, size n = .ok checked :=
  ⟨n.toNat, size_eq_ok_iff.mpr (by omega)⟩

theorem Draft.check_eq_ok_iff {d : Draft} {r : AccessRecord} : d.check = .ok r ↔ r.draft = d := by
  constructor
  · intro h
    unfold Draft.check at h
    cases hStatus : Record.status d.status with
    | error kind => cases hSize : Record.size d.size <;> simp [hStatus, hSize, Validation.inField,
        Validation.supply] at h
    | ok status =>
      cases hSize : Record.size d.size with
      | error kind => simp [hStatus, hSize, Validation.inField, Validation.supply] at h
      | ok size =>
        simp only [hStatus, hSize, Validation.inField, Validation.supply, Except.ok.injEq] at h
        subst h
        rw [status_eq_ok_iff] at hStatus
        rw [size_eq_ok_iff] at hSize
        simp only [AccessRecord.draft, ← hStatus, ← hSize]
  · intro h
    subst h
    have hStatus : Record.status (r.status : Int) = .ok ⟨r.status, r.status_range⟩ :=
      status_eq_ok_iff.mpr rfl
    have hSize : Record.size (r.size : Int) = .ok r.size := size_eq_ok_iff.mpr rfl
    simp only [Draft.check, AccessRecord.draft, hStatus, hSize, Validation.inField,
      Validation.supply]

theorem Draft.check_of_range {d : Draft} (hStatus : 100 ≤ d.status ∧ d.status ≤ 599)
    (hSize : 0 ≤ d.size) : ∃ r, d.check = .ok r := by
  obtain ⟨status, hStatus⟩ := status_of_range hStatus
  obtain ⟨size, hSize⟩ := size_of_nonneg hSize
  simp only [Draft.check, hStatus, hSize, Validation.inField, Validation.supply]
  exact ⟨_, rfl⟩

end Record

namespace Builder

variable {σ : Type} {s : Settings} {r r₁ r₂ : Request} {o : Observer σ} {clock : Clock}

theorem draft_eq_ok_iff {d : Record.Draft} : draft s r o clock = .ok d ↔
    ∃ url user parts requestId elapsed,
      Redaction.redact s.redactedParams s.redactionMarker r.url = .ok url ∧
      Identity.resolve r url s.usernameParam = .ok user ∧ Uri.read url = .ok parts ∧
      r.namedHeader s.requestIdHeader = .ok requestId ∧ clock.elapsed = .ok elapsed ∧
      d = {
        host := Address.host r.remoteAddress
        user := Identity.firstNonEmpty [user, s.placeholder]
        start := clock.start
        method := r.method
        uri := parts.requestUri
        proto := r.proto
        status := o.status
        size := o.size
        referrer := Identity.firstNonEmpty [r.referrer, s.placeholder]
        userAgent := Identity.firstNonEmpty [r.userAgent, s.placeholder]
        requestId := requestId
        elapsed := elapsed } := by
  simp only [draft, Except.bind_eq_ok_iff, pure, Except.pure, Except.ok.injEq, eq_comm (b := d)]
  constructor
  · rintro ⟨url, hUrl, user, hUser, parts, hParts, requestId, hId, elapsed, hElapsed, hd⟩
    exact ⟨url, user, parts, requestId, elapsed, hUrl, hUser, hParts, hId, hElapsed, hd⟩
  · rintro ⟨url, user, parts, requestId, elapsed, hUrl, hUser, hParts, hId, hElapsed, hd⟩
    exact ⟨url, hUrl, user, hUser, parts, hParts, requestId, hId, elapsed, hElapsed, hd⟩

theorem draft_observed {d : Record.Draft} (h : draft s r o clock = .ok d) :
    d.status = o.status ∧ d.size = o.size := by
  obtain ⟨_, _, _, _, _, -, -, -, -, -, rfl⟩ := draft_eq_ok_iff.mp h
  exact ⟨rfl, rfl⟩

/-- The rest of a draft, once the redacted URL has been read. -/
def draftFrom (s : Settings) (r : Request) (o : Observer σ) (clock : Clock) (parts : Uri.Parts) :
    Except Fault Record.Draft := do
  let user ← Identity.ofParts r s.usernameParam parts
  let requestId ← r.namedHeader s.requestIdHeader
  let elapsed ← clock.elapsed
  return {
    host := Address.host r.remoteAddress
    user := Identity.firstNonEmpty [user, s.placeholder]
    start := clock.start
    method := r.method
    uri := parts.requestUri
    proto := r.proto
    status := o.status
    size := o.size
    referrer := Identity.firstNonEmpty [r.referrer, s.placeholder]
    userAgent := Identity.firstNonEmpty [r.userAgent, s.placeholder]
    requestId := requestId
    elapsed := elapsed }

theorem draft_eq (s : Settings) (r : Request) (o : Observer σ) (clock : Clock) :
    draft s r o clock =
      Redaction.redact s.redactedParams s.redactionMarker r.url >>= fun url =>
        Uri.read url >>= draftFrom s r o clock := by
  rw [draft]
  cases Redaction.redact s.redactedParams s.redactionMarker r.url with
  | error fault => rfl
  | ok url =>
    change Identity.resolve r url s.usernameParam >>= _ = Uri.read url >>= _
    rw [Identity.resolve]
    cases Uri.read url with
    | error fault => rfl
    | ok parts => rfl

/-- The user and the target of a draft are read from the parts of the redacted URL. -/
theorem draftFrom_eq_ok {parts : Uri.Parts} {d : Record.Draft}
    (h : draftFrom s r o clock parts = .ok d) :
    ∃ user, Identity.ofParts r s.usernameParam parts = .ok user ∧
      d.user = Identity.firstNonEmpty [user, s.placeholder] ∧ d.uri = parts.requestUri := by
  obtain ⟨user, hUser, h⟩ := Except.bind_eq_ok_iff.mp h
  obtain ⟨requestId, -, h⟩ := Except.bind_eq_ok_iff.mp h
  obtain ⟨elapsed, -, h⟩ := Except.bind_eq_ok_iff.mp h
  cases h
  exact ⟨user, hUser, rfl, rfl⟩

/-- A draft depends on the URL of its request through the redacted URL only. -/
theorem draft_congr (hMethod : r₁.method = r₂.method) (hProto : r₁.proto = r₂.proto)
    (hAddress : r₁.remoteAddress = r₂.remoteAddress) (hHeaders : r₁.headers = r₂.headers)
    (hRedact : Redaction.redact s.redactedParams s.redactionMarker r₁.url =
      Redaction.redact s.redactedParams s.redactionMarker r₂.url) :
    draft s r₁ o clock = draft s r₂ o clock := by
  obtain ⟨method, url₁, proto, address, headers⟩ := r₁
  obtain ⟨_, url₂, _, _, _⟩ := r₂
  cases hMethod
  cases hProto
  cases hAddress
  cases hHeaders
  simp only [draft, hRedact]
  rfl

/-- Of an observer a draft has the status and the size and nothing else. -/
theorem draft_congr_observer {o' : Observer σ} (hStatus : o'.status = o.status)
    (hSize : o'.size = o.size) : draft s r o' clock = draft s r o clock := by
  simp only [draft, hStatus, hSize]

theorem build_eq_ok_iff {record : AccessRecord} :
    build s r o clock = .ok record ↔ draft s r o clock = .ok record.draft := by
  rw [build, Except.bind_eq_ok_iff]
  constructor
  · rintro ⟨d, hDraft, hValid⟩
    cases hCheck : d.check with
    | error issues => simp [valid, hCheck] at hValid
    | ok checked =>
      simp only [valid, hCheck, Except.ok.injEq] at hValid
      subst hValid
      rw [Record.Draft.check_eq_ok_iff.mp hCheck, hDraft]
  · intro hDraft
    refine ⟨record.draft, hDraft, ?_⟩
    rw [Record.Draft.check_eq_ok_iff.mpr rfl, valid]

def present (s : Settings) (base : AccessRecord) : LogCall → LogRecord
  | .access => .access base
  | .error detail => .error { toAccessRecord := base, tag := s.errorTag, detail := detail }

theorem base_present (s : Settings) (base : AccessRecord) (call : LogCall) :
    (present s base call).base = base := by
  cases call <;> rfl

theorem recordFor_eq_ok_iff {call : LogCall} {record : LogRecord} :
    recordFor s r o clock call = .ok record ↔
      ∃ base, build s r o clock = .ok base ∧ record = present s base call := by
  cases call <;> cases hBuild : build s r o clock <;>
    simp [recordFor, buildError, present, hBuild, Except.map, bind, Except.bind, pure, Except.pure,
      eq_comm]

theorem recordFor_of_build {base : AccessRecord} (h : build s r o clock = .ok base)
    (call : LogCall) : recordFor s r o clock call = .ok (present s base call) :=
  recordFor_eq_ok_iff.mpr ⟨base, h, rfl⟩

/-- Of what a record is made from, only the draft matters. -/
theorem build_congr {o₁ o₂ : Observer σ} (h : draft s r₁ o₁ clock = draft s r₂ o₂ clock) :
    build s r₁ o₁ clock = build s r₂ o₂ clock := by
  rw [build, build, h]

theorem buildError_congr {o₁ o₂ : Observer σ} (h : draft s r₁ o₁ clock = draft s r₂ o₂ clock)
    (detail : Text) : buildError s r₁ o₁ clock detail = buildError s r₂ o₂ clock detail := by
  rw [buildError, buildError, build_congr h]

theorem recordFor_congr {o₁ o₂ : Observer σ} (h : draft s r₁ o₁ clock = draft s r₂ o₂ clock)
    (call : LogCall) : recordFor s r₁ o₁ clock call = recordFor s r₂ o₂ clock call := by
  cases call with
  | access => rw [recordFor, recordFor, build_congr h]
  | error detail => rw [recordFor, recordFor, buildError_congr h]

theorem recordFor_congr_observer {o' : Observer σ} (hStatus : o'.status = o.status)
    (hSize : o'.size = o.size) (call : LogCall) :
    recordFor s r o' clock call = recordFor s r o clock call :=
  recordFor_congr (draft_congr_observer hStatus hSize) call

theorem recordFor_observed {call : LogCall} {record : LogRecord}
    (h : recordFor s r o clock call = .ok record) :
    (record.base.status : Int) = o.status ∧ (record.base.size : Int) = o.size := by
  obtain ⟨base, hBuild, rfl⟩ := recordFor_eq_ok_iff.mp h
  rw [base_present]
  exact draft_observed (build_eq_ok_iff.mp hBuild)

end Builder

end RequestLog

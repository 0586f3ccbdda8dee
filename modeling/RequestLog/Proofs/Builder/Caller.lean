import RequestLog.Proofs.Record.Integrity
import RequestLog.Proofs.Redaction.User
import RequestLog.Proofs.Uri.HostHeader

/-!
# The user of a hosted request

The URL of a web scope with a usable Host header names no user, whatever host and path it was put
together from. So the user of its record is named by its query, as redaction leaves it, or else by
its credentials, and two scopes with the same query and credentials have records with the same
user.
-/

namespace RequestLog

namespace Scope

variable {scope : Scope} {headers : Headers}

/-- A web scope with a usable Host header. -/
structure IsHosted (scope : Scope) (headers : Headers) : Prop where
  scheme : IsWebScheme (scope.scheme.getD defaultScheme)
  fields : scope.headers = some headers
  host : ∃ name, usableHost? headers = some name

theorem IsHosted.read_url (h : scope.IsHosted headers) {r : Request}
    (hRequest : Request.ofScope scope = .ok r) :
    r.headers = headers ∧ ∃ p, Uri.read r.url = .ok p ∧ p.IsAnchored ∧ p.username? = none ∧
      p.query = Percent.escape querySafe (scope.queryString.getD []) := by
  obtain ⟨path, method, found, location, hPath, -, hFound, hLocation, rfl⟩ :=
    ofScope_eq_ok_iff.mp hRequest
  rw [h.fields] at hFound
  cases hFound
  obtain ⟨name, hHost⟩ := h.host
  have hNamed : scope.location? (scope.scheme.getD defaultScheme) headers = .ok (some name) := by
    rw [location?, hHost]
  rw [hNamed] at hLocation
  cases hLocation
  have hSafe := Uri.isSafeLocation_of_isUsable (isUsable_of_usableHost? hHost)
  refine ⟨rfl, _, read_assemble h.scheme hSafe (isPathChar_escapedPath hPath)
    (isQueryChar_escape _), ?_, hSafe.username?, rfl⟩
  exact Or.inl hSafe.nonempty

end Scope

namespace Identity

/-- The user whom a query names, or else the credentials. -/
def ofQuery (r : Request) (param query : Text) : Except Fault Text :=
  match Query.firstValue? param (Query.items query) with
  | some user => .ok user
  | none => credentialsUser r

theorem ofParts_of_unnamed {p : Uri.Parts} (h : p.username? = none) (r : Request) (param : Text) :
    ofParts r param p = ofQuery r param p.query := by
  unfold ofQuery
  cases hFirst : Query.firstValue? param (Query.items p.query) with
  | none => exact ofParts_of_anonymous hFirst h
  | some user => exact ofParts_of_named hFirst

/-- Of a request only its Authorization header matters. -/
theorem ofQuery_congr {r₁ r₂ : Request} (h : r₁.header? "authorization" = r₂.header? "authorization")
    (param query : Text) : ofQuery r₁ param query = ofQuery r₂ param query := by
  have hUser : credentialsUser r₁ = credentialsUser r₂ := by
    rw [credentialsUser, credentialsUser, Request.credentials, Request.credentials, h]
  rw [ofQuery, ofQuery, hUser]

end Identity

namespace Builder

open Redaction (redactedQuery)

variable {s : Settings}

/-- Where the URL names no user, the query as redaction leaves it or the credentials name the user
of the record. -/
theorem user_of_unnamed {σ : Type} {r : Request} {o : Observer σ} {clock : Clock} {call : LogCall}
    {record : LogRecord} {p : Uri.Parts} (hRead : Uri.read r.url = .ok p)
    (hAnchored : p.IsAnchored) (hUnnamed : p.username? = none)
    (hRecord : recordFor s r o clock call = .ok record) :
    ∃ user, Identity.ofQuery r s.usernameParam
        (redactedQuery s.redactedParams s.redactionMarker p.query) = .ok user ∧
      record.base.user = Identity.firstNonEmpty [user, s.placeholder] := by
  obtain ⟨base, hBuild, rfl⟩ := recordFor_eq_ok_iff.mp hRecord
  have hDraft := build_eq_ok_iff.mp hBuild
  rw [Redaction.draft_of_isAnchored hRead hAnchored] at hDraft
  obtain ⟨user, hParts, hUser, -⟩ := draftFrom_eq_ok hDraft
  have hAfterUnnamed : (Redaction.partsAfter s.redactedParams s.redactionMarker p).username? =
      none := hUnnamed
  rw [Identity.ofParts_of_unnamed hAfterUnnamed] at hParts
  rw [base_present]
  exact ⟨user, hParts, hUser⟩

variable {σ₁ σ₂ : Type} {scope₁ scope₂ : Scope} {headers₁ headers₂ : Headers} {r₁ r₂ : Request}
  {o₁ : Observer σ₁} {o₂ : Observer σ₂} {clock₁ clock₂ : Clock} {call₁ call₂ : LogCall}
  {record₁ record₂ : LogRecord}

/-- Neither the target of a request nor its host tells who made it. -/
theorem user_eq_of_hosted (h₁ : scope₁.IsHosted headers₁) (h₂ : scope₂.IsHosted headers₂)
    (hQuery : scope₁.queryString.getD [] = scope₂.queryString.getD [])
    (hAuthorization : headers₁.first? (Headers.asciiName "authorization") =
      headers₂.first? (Headers.asciiName "authorization"))
    (hRequest₁ : Request.ofScope scope₁ = .ok r₁) (hRequest₂ : Request.ofScope scope₂ = .ok r₂)
    (hRecord₁ : recordFor s r₁ o₁ clock₁ call₁ = .ok record₁)
    (hRecord₂ : recordFor s r₂ o₂ clock₂ call₂ = .ok record₂) :
    record₁.base.user = record₂.base.user := by
  obtain ⟨hHeaders₁, p₁, hRead₁, hAnchored₁, hUnnamed₁, hQuery₁⟩ := h₁.read_url hRequest₁
  obtain ⟨hHeaders₂, p₂, hRead₂, hAnchored₂, hUnnamed₂, hQuery₂⟩ := h₂.read_url hRequest₂
  obtain ⟨user₁, hUser₁, hField₁⟩ := user_of_unnamed hRead₁ hAnchored₁ hUnnamed₁ hRecord₁
  obtain ⟨user₂, hUser₂, hField₂⟩ := user_of_unnamed hRead₂ hAnchored₂ hUnnamed₂ hRecord₂
  have hHeader : r₁.header? "authorization" = r₂.header? "authorization" := by
    rw [Request.header?, Request.header?, hHeaders₁, hHeaders₂, hAuthorization]
  rw [hQuery₁, hQuery, ← hQuery₂, Identity.ofQuery_congr hHeader, hUser₂] at hUser₁
  cases hUser₁
  rw [hField₁, hField₂]

/-- A scope whose target and host are given; its query has an empty user, so that the credentials
name the user. -/
def hostedScope (host target : String) : Scope where
  kind := some "http".toList
  method := some "OPTIONS".toList
  rawPath := some (Headers.asciiName target)
  path := some target.toList
  queryString := some (Headers.asciiName "u=&k=1&u=eve&p=s")
  headers := some [(Headers.asciiName "host", Headers.asciiName host),
    (Headers.asciiName "authorization", Headers.asciiName "Basic ZGF2ZTpwOnc=")]

theorem isHosted_hostedScope (host target : String)
    (hHost : Uri.HostHeader.isUsable (Latin1.decode (Headers.asciiName host)) = true) :
    (hostedScope host target).IsHosted [(Headers.asciiName "host", Headers.asciiName host),
      (Headers.asciiName "authorization", Headers.asciiName "Basic ZGF2ZTpwOnc=")] where
  scheme := Or.inl rfl
  fields := rfl
  host := ⟨Latin1.decode (Headers.asciiName host), if_pos hHost⟩

/-- A target that is written as a user part, and one that is written as another location. -/
theorem dave_named_for_any_target :
    ∃ r₁ r₂ record₁ record₂,
      Request.ofScope (hostedScope "example.com" "eve:pw@") = .ok r₁ ∧
      Request.ofScope (hostedScope "[::1]:8080" "//mallory@evil/") = .ok r₂ ∧
      recordFor {} r₁ AccessRecord.unwritten AccessRecord.stillClock .access = .ok record₁ ∧
      recordFor {} r₂ AccessRecord.unwritten AccessRecord.stillClock (.error []) = .ok record₂ ∧
      record₁.base.user = "dave".toList ∧ record₂.base.user = record₁.base.user := by
  have hFirst : ((Request.ofScope (hostedScope "example.com" "eve:pw@") >>= fun request =>
      recordFor {} request AccessRecord.unwritten AccessRecord.stillClock .access).toOption).map
        (fun record => record.base.user) = some "dave".toList := by
    decide +kernel
  have hSecond : ((Request.ofScope (hostedScope "[::1]:8080" "//mallory@evil/") >>= fun request =>
      recordFor {} request AccessRecord.unwritten AccessRecord.stillClock
        (.error [])).toOption).isSome = true := by
    decide +kernel
  obtain ⟨record₁, hFound₁, hUser⟩ := Option.map_eq_some_iff.mp hFirst
  obtain ⟨record₂, hFound₂⟩ := Except.exists_ok_of_isSome hSecond
  obtain ⟨r₁, hRequest₁, hRecord₁⟩ :=
    Except.bind_eq_ok_iff.mp (Except.eq_ok_of_toOption_eq_some hFound₁)
  obtain ⟨r₂, hRequest₂, hRecord₂⟩ := Except.bind_eq_ok_iff.mp hFound₂
  have hSame := user_eq_of_hosted
    (isHosted_hostedScope "example.com" "eve:pw@" (by decide +kernel))
    (isHosted_hostedScope "[::1]:8080" "//mallory@evil/" (by decide +kernel)) rfl rfl hRequest₁
    hRequest₂ hRecord₁ hRecord₂
  exact ⟨r₁, r₂, record₁, record₂, hRequest₁, hRequest₂, hRecord₁, hRecord₂, hUser, hSame.symm⟩

end Builder

end RequestLog

import RequestLog.Proofs.Address
import RequestLog.Proofs.Record.Lines
import RequestLog.Proofs.Redaction.Reading
import RequestLog.Proofs.Request.Url
import RequestLog.Proofs.Uri.Characters
import RequestLog.Proofs.Uri.HostHeader

/-!
# Integrity of the line

What a client sends reaches the line of its request by several ways: the URL escaped, header values
quoted, the request id verbatim, and the user decoded. The first two bring in nothing that ends the
line or delimits a part of it. The user brings in whatever was sent, and the request id its quotes.
-/

namespace RequestLog

theorem isUrlClass_isInertChar : Uri.IsUrlClass fun c => isInertChar c = true where
  colon := by decide
  slash := by decide
  question := by decide
  number := by decide
  lower _ := toLower_of_class (by decide)

theorem Redaction.isInert_redact {names : List Text} {marker url redacted : Text}
    (h : IsInert url) (hRedact : redact names marker url = .ok redacted) : IsInert redacted := by
  rcases redact_cases hRedact with rfl | ⟨items, rfl⟩
  · exact h
  · have hParts := Uri.within_parts isUrlClass_isInertChar h
    have hWritten : IsInert (Query.render items) :=
      isInert_of_class (by decide) (by decide) (by decide) (by decide)
        (Query.isRenderedChar_render items)
    exact Uri.Parts.Within.unsplit (p := { Uri.parts url with query := Query.render items })
      ⟨hParts.scheme, hParts.netloc, hParts.path, hWritten, hParts.fragment⟩
      isUrlClass_isInertChar

namespace Headers

/-- No value has a carriage return or a line feed. -/
def AreUnbroken (headers : Headers) : Prop :=
  ∀ field ∈ headers, (10 : UInt8) ∉ field.2 ∧ (13 : UInt8) ∉ field.2

theorem isUnbroken_decode {octets : Octets} (hLine : (10 : UInt8) ∉ octets)
    (hReturn : (13 : UInt8) ∉ octets) : IsUnbroken (Latin1.decode octets) := by
  intro c hc
  obtain ⟨b, hb, rfl⟩ := List.mem_map.mp hc
  have hOctet {mark : Char} (h : Char.ofUInt8 b = mark) : b = UInt8.ofNat mark.toNat := by
    rw [← h, Latin1.ofNat_toNat_ofUInt8]
  rw [isLineEnd_eq_false_iff]
  constructor
  · intro h
    have hFeed : b = 10 := hOctet h
    exact hLine (hFeed ▸ hb)
  · intro h
    have hCarriage : b = 13 := hOctet h
    exact hReturn (hCarriage ▸ hb)

theorem AreUnbroken.first? {headers : Headers} (h : headers.AreUnbroken) (name : Octets) :
    IsUnbroken ((headers.first? name).getD []) := by
  unfold Headers.first?
  cases hFound : headers.find? (·.1 == name) with
  | none => exact isUnbroken_nil
  | some field =>
    obtain ⟨hLine, hReturn⟩ := h field (List.mem_of_find?_eq_some hFound)
    exact isUnbroken_decode hLine hReturn

end Headers

namespace Identity

theorem isUnbroken_firstNonEmpty {texts : List Text} (h : ∀ t ∈ texts, IsUnbroken t) :
    IsUnbroken (firstNonEmpty texts) := by
  induction texts with
  | nil => exact isUnbroken_nil
  | cons first rest ih =>
    obtain ⟨hFirst, hRest⟩ := List.forall_mem_cons.mp h
    unfold firstNonEmpty
    split
    · exact ih hRest
    · exact hFirst

end Identity

/-- A request whose texts are inert, header values apart, which have no line end. -/
structure Request.IsTame (r : Request) : Prop where
  method : IsInert r.method
  url : IsInert r.url
  proto : IsInert r.proto
  remoteAddress : IsInert r.remoteAddress
  headers : r.headers.AreUnbroken

namespace Builder

variable {σ : Type} {s : Settings} {r : Request} {o : Observer σ} {clock : Clock}

theorem isTame_record (h : r.IsTame) (hPlaceholder : IsUnbroken s.placeholder)
    {record : AccessRecord} (hRecord : build s r o clock = .ok record) :
    record.IsPlain ∧ IsUnbroken record.referrer ∧ IsUnbroken record.userAgent ∧
      IsUnbroken record.requestId := by
  obtain ⟨url, user, p, id, elapsed, hRedact, -, hRead, hId, -, hDraft⟩ :=
    draft_eq_ok_iff.mp (build_eq_ok_iff.mp hRecord)
  have hTarget : IsInert p.requestUri := by
    obtain rfl := (Uri.read_eq_ok_iff.mp hRead).2
    exact (Uri.within_parts isUrlClass_isInertChar
      (Redaction.isInert_redact h.url hRedact)).requestUri isUrlClass_isInertChar
  have hOrPlaceholder {t : Text} (ht : IsUnbroken t) :
      IsUnbroken (Identity.firstNonEmpty [t, s.placeholder]) := by
    refine Identity.isUnbroken_firstNonEmpty ?_
    simp [ht, hPlaceholder]
  have hNamed : IsUnbroken id := by
    unfold Request.namedHeader Headers.get? at hId
    cases hName : Headers.wireName s.requestIdHeader with
    | error cause =>
      rw [hName] at hId
      cases hId
    | ok name =>
      rw [hName] at hId
      cases hId
      exact h.headers.first? name
  refine ⟨⟨?_, ?_, ?_, ?_⟩, ?_, ?_, ?_⟩
  · have hHost : record.host = _ := congrArg Record.Draft.host hDraft
    rw [hHost]
    exact fun c hc => h.remoteAddress c (Address.mem_of_mem_host hc)
  · have hMethod : record.method = _ := congrArg Record.Draft.method hDraft
    rw [hMethod]
    exact h.method
  · have hUri : record.uri = _ := congrArg Record.Draft.uri hDraft
    rw [hUri]
    exact hTarget
  · have hProto : record.proto = _ := congrArg Record.Draft.proto hDraft
    rw [hProto]
    exact h.proto
  · have hReferrer : record.referrer = _ := congrArg Record.Draft.referrer hDraft
    rw [hReferrer]
    exact hOrPlaceholder (h.headers.first? _)
  · have hUserAgent : record.userAgent = _ := congrArg Record.Draft.userAgent hDraft
    rw [hUserAgent]
    exact hOrPlaceholder (h.headers.first? _)
  · have hRequestId : record.requestId = _ := congrArg Record.Draft.requestId hDraft
    rw [hRequestId]
    exact hNamed

end Builder

namespace Scope

/-- A scope whose texts are inert but for the path, and whose header values have no line end. What
stands in path, query and header values is otherwise free. -/
structure IsTame (scope : Scope) : Prop where
  method : ∀ method, scope.method = some method → IsInert method
  version : ∀ version, scope.httpVersion = some version → IsInert version.plain
  client : ∀ peer, scope.client = some peer → IsInert peer.host ∧ IsInert peer.port.text
  scheme : ∀ scheme, scope.scheme = some scheme → IsInert scheme
  server : ∀ server, scope.server = some server → IsInert server.host ∧ IsInert server.port.text
  headers : ∀ headers, scope.headers = some headers → headers.AreUnbroken

theorem isInert_of_isUsable {host : Text} (h : Uri.HostHeader.isUsable host = true) :
    IsInert host :=
  isInert_of_class (by decide) (by decide) (by decide) (by decide)
    (Uri.isBracketedChar_of_isUsable h)

theorem isInert_serverLocation {scheme location : Text} {server : Server}
    (hHost : IsInert server.host) (hPort : IsInert server.port.text)
    (h : serverLocation scheme server = .ok location) : IsInert location :=
  forall_mem_serverLocation (by decide) (by decide) (by decide) hHost hPort h

variable {scope : Scope}

theorem IsTame.isInert_location (h : scope.IsTame) {scheme location : Text} {headers : Headers}
    (hLocation : scope.location? scheme headers = .ok (some location)) : IsInert location := by
  rcases location?_cases hLocation with hHost | ⟨-, server, hServer, hFound⟩
  · exact isInert_of_isUsable (isUsable_of_usableHost? hHost)
  · obtain ⟨hHost, hPort⟩ := h.server server hServer
    exact isInert_serverLocation hHost hPort hFound

theorem isInert_guardSlashes {path : Text} (h : IsInert path) : IsInert (guardSlashes path) := by
  unfold guardSlashes
  split
  · simp only [isInert_cons] at h
    exact isInert_append.mpr ⟨List.all_eq_true.mp (by decide), h.2.2⟩
  · exact h

theorem isInert_assemble {scheme path query : Text} {location : Option Text}
    (hScheme : IsInert scheme) (hLocation : ∀ l, location = some l → IsInert l)
    (hPath : ∀ c ∈ path, isPathChar c = true) (hQuery : ∀ c ∈ query, isQueryChar c = true) :
    IsInert (assemble scheme location path query) := by
  have hInertPath : IsInert path :=
    isInert_of_class (by decide) (by decide) (by decide) (by decide) hPath
  have hInertQuery : IsInert query :=
    isInert_of_class (by decide) (by decide) (by decide) (by decide) hQuery
  simp only [assemble, guardPath_of_isPathChar hPath]
  cases location with
  | none =>
    exact isInert_append.mpr ⟨isInert_guardSlashes hInertPath,
      Uri.forall_mem_introduced (by decide) hInertQuery⟩
  | some location =>
    exact Uri.Parts.Within.unsplit
      ⟨hScheme, hLocation location rfl, hInertPath, hInertQuery, isInert_nil⟩
      isUrlClass_isInertChar

theorem IsTame.isTame_request (h : scope.IsTame) {request : Request}
    (hRequest : Request.ofScope scope = .ok request) : request.IsTame := by
  obtain ⟨path, method, headers, location, hPath, hMethod, hHeaders, hLocation, rfl⟩ :=
    ofScope_eq_ok_iff.mp hRequest
  have hScheme : IsInert (scope.scheme.getD defaultScheme) := by
    cases hGiven : scope.scheme with
    | none => exact List.all_eq_true.mp (by decide)
    | some scheme => exact h.scheme scheme hGiven
  refine ⟨h.method method hMethod, ?_, ?_, ?_, h.headers headers hHeaders⟩
  · refine isInert_assemble hScheme ?_ (isPathChar_escapedPath hPath) (isQueryChar_escape _)
    rintro found rfl
    exact h.isInert_location hLocation
  · refine isInert_append.mpr ⟨List.all_eq_true.mp (by decide), ?_⟩
    cases hVersion : scope.httpVersion with
    | none => exact List.all_eq_true.mp (by decide)
    | some version => exact h.version version hVersion
  · change IsInert scope.remoteAddress
    unfold remoteAddress
    cases hClient : scope.client with
    | none => exact isInert_nil
    | some peer =>
      obtain ⟨hHost, hPort⟩ := h.client peer hClient
      exact Address.forall_mem_join (by decide) (by decide) (by decide) hHost hPort

end Scope

namespace AccessRecord

/-- The structured line of a request's record is one line. Its common line is one exactly when its
user has no line end, and the bare quotes in it are the six of the line, and those of the user and
of the request id. -/
theorem line_broken_by_user_only {scope : Scope} (h : scope.IsTame) {request : Request}
    (hRequest : Request.ofScope scope = .ok request) {σ : Type} {o : Observer σ} {clock : Clock}
    {record : AccessRecord} (hRecord : Builder.build {} request o clock = .ok record) :
    IsUnbroken (LogRecord.line .json (.access record)) ∧
    (IsUnbroken (LogRecord.line .common (.access record)) ↔ IsUnbroken record.user) ∧
    bareQuotes (LogRecord.line .common (.access record)) =
      6 + bareQuotes record.user + bareQuotes record.requestId := by
  have hPlaceholder : IsUnbroken ({} : Settings).placeholder := List.forall_mem_singleton.mpr rfl
  obtain ⟨hPlain, hReferrer, hAgent, hId⟩ :=
    Builder.isTame_record (h.isTame_request hRequest) hPlaceholder hRecord
  exact ⟨LogRecord.isUnbroken_json _, hPlain.isUnbroken_common_iff hReferrer hAgent hId,
    hPlain.bareQuotes_common⟩

/-- Quotes, escapes and line ends wherever a client can put them, and a query of its own. -/
def hostileScope (query : String) : Scope where
  kind := some "http".toList
  httpVersion := some (.text "1.1".toList)
  method := some "GET".toList
  scheme := some "http".toList
  server := some ⟨"example.com".toList, .number 80⟩
  path := some "/".toList
  rawPath := some (Headers.asciiName "/\"\n\\")
  queryString := some (Headers.asciiName query)
  headers := some [(Headers.asciiName "referer", Headers.asciiName "a\" \\"),
    (Headers.asciiName "request-id", Headers.asciiName "r-1")]
  client := some ⟨"127.0.0.1".toList, .number 5000⟩

def stillClock : Clock := ⟨⟨2024, 1, 15, 12, 0, 0, 0, some 0⟩, 0, 0⟩

def unwritten : Observer Recorder := { writer := { name := [], canFlush := false } }

def hostileRecord? (s : Settings) (query : String) : Option AccessRecord :=
  (Request.ofScope (hostileScope query) >>= fun request =>
    Builder.build s request unwritten stillClock).toOption

theorem isTame_hostileScope (query : String) : (hostileScope query).IsTame where
  method := by
    rintro method ⟨⟩
    exact List.all_eq_true.mp (by decide)
  version := by
    rintro version ⟨⟩
    exact List.all_eq_true.mp (by decide)
  client := by
    rintro peer ⟨⟩
    exact ⟨List.all_eq_true.mp (by decide), Digits.isInert_signed 5000⟩
  scheme := by
    rintro scheme ⟨⟩
    exact List.all_eq_true.mp (by decide)
  server := by
    rintro server ⟨⟩
    exact ⟨List.all_eq_true.mp (by decide), Digits.isInert_signed 80⟩
  headers := by
    rintro headers ⟨⟩
    unfold Headers.AreUnbroken
    decide

theorem exists_hostileRecord {s : Settings} {query : String} {α : Type} {f : AccessRecord → α}
    {a : α} (h : (hostileRecord? s query).map f = some a) :
    ∃ request record, Request.ofScope (hostileScope query) = .ok request ∧
      Builder.build s request unwritten stillClock = .ok record ∧ f record = a := by
  obtain ⟨record, hRecord, hValue⟩ := Option.map_eq_some_iff.mp h
  obtain ⟨request, hRequest, hBuild⟩ :=
    Except.bind_eq_ok_iff.mp (Except.eq_ok_of_toOption_eq_some hRecord)
  exact ⟨request, record, hRequest, hBuild, hValue⟩

theorem plain_user_line_unbroken :
    (hostileScope "u=alice&x=\"\r\n").IsTame ∧ ∃ request record,
      Request.ofScope (hostileScope "u=alice&x=\"\r\n") = .ok request ∧
      Builder.build {} request unwritten stillClock = .ok record ∧
      IsUnbroken (LogRecord.line .json (.access record)) ∧
      IsUnbroken (LogRecord.line .common (.access record)) ∧
      bareQuotes (LogRecord.line .common (.access record)) = 6 := by
  have hTexts : (hostileRecord? {} "u=alice&x=\"\r\n").map (fun r => (r.user, r.requestId)) =
      some ("alice".toList, "r-1".toList) := by
    decide +kernel
  obtain ⟨request, record, hRequest, hRecord, hValues⟩ := exists_hostileRecord hTexts
  obtain ⟨hUser, hId⟩ := Prod.mk.inj hValues
  obtain ⟨hJson, hCommon, hQuotes⟩ :=
    line_broken_by_user_only (isTame_hostileScope _) hRequest hRecord
  rw [hUser] at hCommon hQuotes
  rw [hId] at hQuotes
  exact ⟨isTame_hostileScope _, request, record, hRequest, hRecord, hJson,
    hCommon.mpr (isUnbroken_iff.mpr (by decide)), hQuotes⟩

/-- A user parameter with an escaped quote and an escaped line end writes a line of its own. -/
theorem user_forges_line :
    (hostileScope "u=eve%22%0A10.6.6.6").IsTame ∧ ∃ request record,
      Request.ofScope (hostileScope "u=eve%22%0A10.6.6.6") = .ok request ∧
      Builder.build {} request unwritten stillClock = .ok record ∧
      ¬IsUnbroken (LogRecord.line .common (.access record)) ∧
      bareQuotes (LogRecord.line .common (.access record)) ≠ 6 := by
  have hLine : (hostileRecord? {} "u=eve%22%0A10.6.6.6").map
      (fun r => LogRecord.line .common (.access r)) =
        some ("127.0.0.1 - eve\"\n10.6.6.6 [15/Jan/2024:12:00:00 +0000] " ++
          "\"GET /%22%0A%5C?u=eve%22%0A10.6.6.6 HTTP/1.1\" 200 - " ++
          "\"a\\\" \\\\\" \"-\" r-1 0").toList := by
    decide +kernel
  obtain ⟨request, record, hRequest, hRecord, hWritten⟩ := exists_hostileRecord hLine
  refine ⟨isTame_hostileScope _, request, record, hRequest, hRecord, ?_, ?_⟩
  · rw [hWritten, isUnbroken_iff]
    decide +kernel
  · rw [hWritten]
    decide +kernel

end AccessRecord

end RequestLog

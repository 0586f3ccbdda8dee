import RequestLog.Proofs.Record.Integrity
import RequestLog.Proofs.Request.Target
import RequestLog.Proofs.Uri.Behind

/-!
# Characters of the logged target

The target of a record is written with the characters of a request line: path and query are escaped
when the URL is put together, and a query that redaction writes anew is escaped again. What stands
in the location does not matter as long as none of it begins a path, a query or a fragment, for
nothing of a location is moved behind it.
-/

namespace RequestLog

/-- The characters that may stand in the target of a request line. -/
def isTargetChar (c : Char) : Bool := c.isAlphanum || "-._~/$&+,:;=@%?!'()*".toList.contains c

/-- These are printable characters of ASCII, and neither quotes, backslashes nor number signs. -/
theorem isTargetChar_bounds {c : Char} (h : isTargetChar c = true) :
    0x20 < c.toNat ∧ c.toNat < 0x7F ∧ c ≠ '"' ∧ c ≠ '\\' ∧ c ≠ '#' := by
  have hCode : 0x20 < c.toNat ∧ c.toNat < 0x7F := by
    rcases Bool.or_eq_true_iff.mp h with hAlphanum | hMark
    · have := toNat_of_isAlphanum hAlphanum
      omega
    · have hMarks : ("-._~/$&+,:;=@%?!'()*".toList.all fun x =>
          0x20 < x.toNat ∧ x.toNat < 0x7F) = true := by
        decide
      exact of_decide_eq_true (List.all_eq_true.mp hMarks c (List.contains_iff_mem.mp hMark))
  exact ⟨hCode.1, hCode.2, ne_of_class h (by decide), ne_of_class h (by decide),
    ne_of_class h (by decide)⟩

theorem isTargetChar_of_isUnreserved {c : Char} (h : Percent.isUnreserved c = true) :
    isTargetChar c = true := by
  simp only [Percent.isUnreserved, Bool.or_eq_true, beq_iff_eq] at h
  rcases h with (((hAlphanum | rfl) | rfl) | rfl) | rfl
  · rw [isTargetChar, hAlphanum, Bool.true_or]
  all_goals decide

/-- A class of unreserved characters and some more is within these if the others are. -/
theorem isTargetChar_of_escaped {safe : Text} (hSafe : ∀ c ∈ safe, isTargetChar c = true) {c : Char}
    (h : (Percent.isUnreserved c || safe.contains c) = true) : isTargetChar c = true := by
  rcases Bool.or_eq_true_iff.mp h with hUnreserved | hMark
  · exact isTargetChar_of_isUnreserved hUnreserved
  · exact hSafe c (List.contains_iff_mem.mp hMark)

theorem isTargetChar_of_isPathChar {c : Char} (h : Scope.isPathChar c = true) :
    isTargetChar c = true :=
  isTargetChar_of_escaped (List.all_eq_true.mp (by decide)) h

theorem isTargetChar_of_isQueryChar {c : Char} (h : Scope.isQueryChar c = true) :
    isTargetChar c = true :=
  isTargetChar_of_escaped (List.all_eq_true.mp (by decide)) h

theorem isTargetChar_of_isRenderedChar {c : Char} (h : Query.isRenderedChar c = true) :
    isTargetChar c = true := by
  simp only [Query.isRenderedChar, Query.isItemChar, Query.isComponentChar, Bool.or_eq_true,
    beq_iff_eq] at h
  rcases h with (((hUnreserved | rfl) | rfl) | rfl) | rfl
  · exact isTargetChar_of_isUnreserved hUnreserved
  all_goals decide

/-- A URL that has no other characters behind its location. -/
def IsTargetUrl (url : Text) : Prop := Uri.IsWithin (fun c => isTargetChar c = true) url

theorem IsTargetUrl.redact {names : List Text} {marker url redacted : Text} (h : IsTargetUrl url)
    (hRedact : Redaction.redact names marker url = .ok redacted) : IsTargetUrl redacted := by
  rcases Redaction.redact_cases hRedact with rfl | ⟨items, rfl⟩
  · exact h
  · refine Uri.IsWithin.unsplit_query h (by decide) (by decide) ?_
    intro c hc
    exact isTargetChar_of_isRenderedChar (Query.isRenderedChar_render items c hc)

/-- A server of which nothing ends a location. Its port is a number or missing; where it is a text
instead, that is looked at as well. -/
structure Server.IsBounded (server : Server) : Prop where
  host : ∀ c ∈ server.host, Uri.endsNetloc c = false
  port : ∀ text, server.port = .named text → ∀ c ∈ text, Uri.endsNetloc c = false

theorem Server.IsBounded.text_port {server : Server} (h : server.IsBounded) :
    ∀ c ∈ server.port.text, Uri.endsNetloc c = false := by
  cases hPort : server.port with
  | named text => exact h.port text hPort
  | absent =>
    intro c hc
    exact Bool.eq_false_iff.mpr (List.any_eq_false.mp (by decide) c hc)
  | number n =>
    intro c hc
    rcases Digits.mem_signed hc with rfl | hDigit
    · decide
    · exact Uri.endsNetloc_of_class (by decide) (by decide) (by decide) hDigit

namespace Scope

/-- A scope that names its location by a usable Host header, or by a bounded server, or not at
all. -/
inductive IsBounded (scope : Scope) (headers : Headers) : Prop where
  | host (name : Text) (usable : usableHost? headers = some name)
  | server (server : Server) (named : scope.server = some server) (bounded : server.IsBounded)
  | nowhere (unserved : scope.server = none)

variable {scope : Scope} {headers : Headers} {scheme location path query : Text}

theorem IsBounded.endsNetloc (h : scope.IsBounded headers)
    (hLocation : scope.location? scheme headers = .ok (some location)) :
    ∀ c ∈ location, Uri.endsNetloc c = false := by
  rcases location?_cases hLocation with hHost | ⟨hUnnamed, server, hServer, hFound⟩
  · intro c hc
    exact ((Uri.isSafeLocation_of_isUsable (isUsable_of_usableHost? hHost)).inside c hc).1
  · have hBounded : server.IsBounded := by
      cases h with
      | host name usable =>
        rw [hUnnamed] at usable
        cases usable
      | server other named bounded =>
        rw [hServer] at named
        cases named
        exact bounded
      | nowhere unserved =>
        rw [hServer] at unserved
        cases unserved
    exact forall_mem_serverLocation (by decide) (by decide) (by decide) hBounded.host
      hBounded.text_port hFound

theorem isPathChar_guardSlashes (h : ∀ c ∈ path, isPathChar c = true) :
    ∀ c ∈ guardSlashes path, isPathChar c = true := by
  unfold guardSlashes
  split
  · simp only [List.forall_mem_cons] at h
    exact List.forall_mem_append.mpr ⟨List.all_eq_true.mp (by decide), h.2.2⟩
  · exact h

theorem isTargetUrl_assemble (hScheme : IsWebScheme scheme) {location : Option Text}
    (hLocation : ∀ l, location = some l → ∀ c ∈ l, Uri.endsNetloc c = false)
    (hPath : ∀ c ∈ path, isPathChar c = true) (hQuery : ∀ c ∈ query, isQueryChar c = true) :
    IsTargetUrl (assemble scheme location path query) := by
  have hTargetPath : ∀ c ∈ path, isTargetChar c = true :=
    fun c hc => isTargetChar_of_isPathChar (hPath c hc)
  have hTargetQuery : ∀ c ∈ query, isTargetChar c = true :=
    fun c hc => isTargetChar_of_isQueryChar (hQuery c hc)
  simp only [assemble, guardPath_of_isPathChar hPath]
  cases location with
  | none =>
    refine Uri.IsWithin.of_forall_mem (List.forall_mem_append.mpr ⟨?_, ?_⟩)
    · exact fun c hc => isTargetChar_of_isPathChar (isPathChar_guardSlashes hPath c hc)
    · exact Uri.forall_mem_introduced (by decide) hTargetQuery
  | some location =>
    exact Uri.isWithin_unsplit (by decide) (by decide) (Or.inr hScheme.isScheme)
      (hLocation location rfl) hTargetPath hTargetQuery (List.forall_mem_nil _)

theorem IsBounded.isTargetUrl (hScheme : IsWebScheme (scope.scheme.getD defaultScheme))
    (hHeaders : scope.headers = some headers) (h : scope.IsBounded headers) {request : Request}
    (hRequest : Request.ofScope scope = .ok request) : IsTargetUrl request.url := by
  obtain ⟨path, method, found, location, hPath, -, hFound, hLocation, rfl⟩ :=
    ofScope_eq_ok_iff.mp hRequest
  rw [hHeaders] at hFound
  cases hFound
  refine isTargetUrl_assemble hScheme ?_ (isPathChar_escapedPath hPath) (isQueryChar_escape _)
  rintro l rfl
  exact h.endsNetloc hLocation

end Scope

namespace Builder

variable {σ : Type} {s : Settings} {r : Request} {o : Observer σ} {clock : Clock}

theorem isTargetChar_build (h : IsTargetUrl r.url) {base : AccessRecord}
    (hBuild : build s r o clock = .ok base) : ∀ c ∈ base.uri, isTargetChar c = true := by
  obtain ⟨url, user, p, id, elapsed, hRedact, -, hRead, -, -, hDraft⟩ :=
    draft_eq_ok_iff.mp (build_eq_ok_iff.mp hBuild)
  obtain rfl := (Uri.read_eq_ok_iff.mp hRead).2
  have hUri : base.uri = (Uri.parts url).requestUri := congrArg Record.Draft.uri hDraft
  rw [hUri]
  exact (h.redact hRedact).requestUri (by decide) (by decide)

/-- Every character of the target in the record of a bounded web request may stand on a request
line, whatever octets and characters its path and query came with, and whether or not its query was
redacted. -/
theorem isTargetChar_uri {scope : Scope} (hScheme : Scope.IsWebScheme
    (scope.scheme.getD Scope.defaultScheme)) {headers : Headers}
    (hHeaders : scope.headers = some headers) (hBounded : scope.IsBounded headers)
    {request : Request} (hRequest : Request.ofScope scope = .ok request) {call : LogCall}
    {record : LogRecord} (hRecord : recordFor s request o clock call = .ok record) :
    ∀ c ∈ record.base.uri, isTargetChar c = true ∧
      0x20 < c.toNat ∧ c.toNat < 0x7F ∧ c ≠ '"' ∧ c ≠ '\\' ∧ c ≠ '#' := by
  obtain ⟨base, hBuild, rfl⟩ := recordFor_eq_ok_iff.mp hRecord
  rw [base_present]
  intro c hc
  have hChar := isTargetChar_build (hBounded.isTargetUrl hScheme hHeaders hRequest) hBuild c hc
  exact ⟨hChar, isTargetChar_bounds hChar⟩

/-- A server with a name that is none, a path and a mount point without a slash, and a query with a
password and with marks that are not escaped. -/
def crooked : Scope where
  kind := some "http".toList
  method := some "GET".toList
  server := some ⟨"a \"b\\".toList, .absent⟩
  rootPath := some "r\"".toList
  path := some "é #".toList
  queryString := some (Headers.asciiName "p=1&q=\"\\#")
  headers := some []

theorem crooked_uri_escaped :
    ∃ request record, Request.ofScope crooked = .ok request ∧
      recordFor {} request AccessRecord.unwritten AccessRecord.stillClock .access = .ok record ∧
      record.base.uri = "/r%22%C3%A9%20%23?p=%5BREDACTED%5D&q=%22%5C%23".toList ∧
      ∀ c ∈ record.base.uri, isTargetChar c = true := by
  have hUri : ((Request.ofScope crooked >>= fun request =>
      recordFor {} request AccessRecord.unwritten AccessRecord.stillClock .access).toOption).map
        (fun record => record.base.uri) =
          some "/r%22%C3%A9%20%23?p=%5BREDACTED%5D&q=%22%5C%23".toList := by
    decide +kernel
  obtain ⟨record, hFound, hWritten⟩ := Option.map_eq_some_iff.mp hUri
  obtain ⟨request, hRequest, hRecord⟩ :=
    Except.bind_eq_ok_iff.mp (Except.eq_ok_of_toOption_eq_some hFound)
  have hHost : ("a \"b\\".toList.any Uri.endsNetloc) = false := by decide
  have hBounded : crooked.IsBounded [] := by
    refine .server _ rfl ⟨?_, ?_⟩
    · exact fun c hc => Bool.eq_false_iff.mpr (List.any_eq_false.mp hHost c hc)
    · rintro text ⟨⟩
  have hChars := isTargetChar_uri (Or.inl rfl) rfl hBounded hRequest hRecord
  exact ⟨request, record, hRequest, hRecord, hWritten, fun c hc => (hChars c hc).1⟩

end Builder

end RequestLog

import RequestLog.Proofs.Request.Url
import RequestLog.Proofs.Text.Numerals
import RequestLog.Proofs.Uri.HostHeader

/-!
# The target of a request

The URL of an addressed request has the escaped path and query of its scope, whatever octets these
were escaped from: no octet of the one ends up in the other, in a fragment, or in the location, and
the location names no user. A web scope with all its keys always makes a request.
-/

namespace RequestLog.Uri

/-- Letters, digits, dots and hyphens are characters of a host, as all characters of names are. -/
theorem isHostChar_of_isNameChar {c : Char} (h : HostHeader.isNameChar c = true) :
    isHostChar c = true := by
  have hAuthority : isAuthorityChar c = true :=
    isAuthorityChar_of_isLocationChar (by rw [isLocationChar, h, Bool.true_or])
  rcases Bool.or_eq_true_iff.mp hAuthority with hHost | hColon
  · exact hHost
  · rw [beq_iff_eq.mp hColon] at h
    exact absurd h (by decide)

theorem isHostChar_of_mem_signed {n : Int} {c : Char} (h : c ∈ Digits.signed n) :
    isHostChar c = true := by
  rcases Digits.mem_signed h with rfl | hDigit
  · decide
  · exact isHostChar_of_isNameChar (isNameChar_of_isDigit hDigit)

theorem rooted_of_head? {path : Text} (h : path.head? = some '/') : rooted path = path := by
  obtain ⟨rest, rfl⟩ := List.head?_eq_some_iff.mp h
  rfl

theorem head?_ne_slash_of_startsDoubleSlash {rest : Text}
    (h : startsDoubleSlash ('/' :: rest) = false) : rest.head? ≠ some '/' := by
  intro hHead
  obtain ⟨more, rfl⟩ := List.head?_eq_some_iff.mp hHead
  cases h

end RequestLog.Uri

namespace RequestLog.Scope

/-- What tells the location of a request: its usable Host header, or else the name of its server.
Where nothing does, the path must not begin as a location would. -/
inductive IsAddressed (scope : Scope) (headers : Headers) (path : Text) : Prop where
  | host (name : Text) (usable : usableHost? headers = some name)
  | server (name : Text) (port : Int) (unnamed : usableHost? headers = none)
      (named : scope.server = some ⟨name, .number port⟩) (nonempty : name ≠ [])
      (inside : ∀ c ∈ name, Uri.isHostChar c = true)
  | nowhere (unnamed : usableHost? headers = none) (unserved : scope.server = none)
      (single : Uri.startsDoubleSlash path = false)

variable {scheme path query : Text} {headers : Headers}

theorem serverLocation_of_isWebScheme (hScheme : IsWebScheme scheme) (server : Server) :
    serverLocation scheme server = .ok (bracketed server.host) ∨
    serverLocation scheme server = .ok (bracketed server.host ++ ':' :: server.port.text) := by
  have hPort : ∃ port, defaultPort? scheme = some port := by
    rcases hScheme with rfl | rfl
    · exact ⟨80, rfl⟩
    · exact ⟨443, rfl⟩
  obtain ⟨port, hPort⟩ := hPort
  rw [serverLocation, hPort]
  by_cases hDefault : server.port = .number port
  · exact Or.inl (if_pos hDefault)
  · exact Or.inr (if_neg hDefault)

/-- A web scope with all its keys. -/
structure IsComplete (scope : Scope) : Prop where
  scheme : IsWebScheme (scope.scheme.getD defaultScheme)
  method : ∃ method, scope.method = some method
  path : ∃ path, scope.path = some path
  headers : ∃ headers, scope.headers = some headers

theorem exists_location? (hScheme : IsWebScheme scheme) (scope : Scope) (headers : Headers) :
    ∃ location, scope.location? scheme headers = .ok location := by
  cases hHost : usableHost? headers with
  | some host => exact ⟨some host, by rw [location?, hHost]⟩
  | none =>
    cases hServer : scope.server with
    | none => exact ⟨none, by rw [location?, hHost, hServer]⟩
    | some server =>
      rcases serverLocation_of_isWebScheme hScheme server with h | h
      · exact ⟨some _, by rw [location?, hHost, hServer]; exact congrArg (·.map some) h⟩
      · exact ⟨some _, by rw [location?, hHost, hServer]; exact congrArg (·.map some) h⟩

theorem IsComplete.exists_request {scope : Scope} (h : scope.IsComplete) :
    ∃ request, Request.ofScope scope = .ok request := by
  obtain ⟨method, hMethod⟩ := h.method
  obtain ⟨path, hPath⟩ := h.path
  obtain ⟨headers, hHeaders⟩ := h.headers
  obtain ⟨escaped, hEscaped⟩ := escapedPath_of_path hPath
  obtain ⟨location, hLocation⟩ := exists_location? h.scheme scope headers
  exact ⟨_, ofScope_eq_ok_iff.mpr ⟨escaped, method, headers, location, hEscaped, hMethod,
    hHeaders, hLocation, rfl⟩⟩

theorem isSafeLocation_server (hScheme : IsWebScheme scheme) {name : Text} (hName : name ≠ [])
    (hChars : ∀ c ∈ name, Uri.isHostChar c = true) (port : Int) :
    ∃ location, serverLocation scheme ⟨name, .number port⟩ = .ok location ∧
      Uri.IsSafeLocation location := by
  have hAuthority : ∀ c ∈ name, Uri.isAuthorityChar c = true := by
    intro c hc
    rw [Uri.isAuthorityChar, hChars c hc, Bool.true_or]
  have hBare : bracketed name = name := by
    have hColon : name.contains ':' = false := by
      simpa using notMem_of_class hChars (c := ':') (by decide)
    rw [bracketed, hColon]
    rfl
  rcases serverLocation_of_isWebScheme hScheme ⟨name, .number port⟩ with h | h
  · rw [hBare] at h
    exact ⟨_, h, Uri.isSafeLocation_of_isAuthorityChar hName hAuthority⟩
  · rw [hBare] at h
    refine ⟨_, h, Uri.isSafeLocation_of_isAuthorityChar (by simp) ?_⟩
    intro c hc
    rcases List.mem_append.mp hc with hc | hc
    · exact hAuthority c hc
    · rcases List.mem_cons.mp hc with rfl | hc
      · decide
      · rw [Uri.isAuthorityChar, Uri.isHostChar_of_mem_signed hc, Bool.true_or]

theorem IsAddressed.location? {scope : Scope} (h : scope.IsAddressed headers path)
    (hScheme : IsWebScheme scheme) :
    (∃ location, scope.location? scheme headers = .ok (some location) ∧
      Uri.IsSafeLocation location) ∨
    (scope.location? scheme headers = .ok none ∧ Uri.startsDoubleSlash path = false) := by
  cases h with
  | host name usable =>
    refine Or.inl ⟨name, ?_, Uri.isSafeLocation_of_isUsable (isUsable_of_usableHost? usable)⟩
    rw [Scope.location?, usable]
  | server name port unnamed named nonempty inside =>
    obtain ⟨location, hLocation, hSafe⟩ := isSafeLocation_server hScheme nonempty inside port
    refine Or.inl ⟨location, ?_, hSafe⟩
    rw [Scope.location?, unnamed, named]
    change (serverLocation scheme ⟨name, .number port⟩).map some = _
    rw [hLocation]
    rfl
  | nowhere unnamed unserved single =>
    refine Or.inr ⟨?_, single⟩
    rw [Scope.location?, unnamed, unserved]

theorem guardSlashes_of_single (h : Uri.startsDoubleSlash path = false) :
    guardSlashes path = path := by
  unfold guardSlashes
  split
  · cases h
  · rfl

/-- A URL without a location is read as the path and query that it was put together from. -/
theorem read_assemble_none (scheme : Text) (hPath : ∀ c ∈ path, isPathChar c = true)
    (hQuery : ∀ c ∈ query, isQueryChar c = true) (hRoot : path.head? = some '/')
    (hSingle : Uri.startsDoubleSlash path = false) :
    Uri.read (assemble scheme none path query) = .ok ⟨[], [], path, query, []⟩ := by
  have hForm : Uri.Parts.WellFormed ⟨[], [], path, query, []⟩ :=
    wellFormed_of_chars (Or.inl rfl) (List.forall_mem_nil _) hPath hQuery
  have hLocated : Uri.Parts.IsLocated ⟨[], [], path, query, []⟩ := by
    obtain ⟨rest, rfl⟩ := List.head?_eq_some_iff.mp hRoot
    exact Or.inr ⟨rfl, rest, rfl, Uri.head?_ne_slash_of_startsDoubleSlash hSingle⟩
  have hUrl : assemble scheme none path query = Uri.unsplit ⟨[], [], path, query, []⟩ := by
    have hNowhere : Uri.netlocSchemes.contains [] = false := by decide
    simp only [assemble, guardPath_of_isPathChar hPath, guardSlashes_of_single hSingle,
      Uri.unsplit, Uri.hasLocation, hNowhere]
    simp [Uri.introduced]
  rw [hUrl]
  exact hForm.read_unsplit hLocated ⟨rfl, rfl⟩

/-- The path and query of an addressed web request are those of the wire, and nothing else of it is
taken from them. -/
theorem target_on_wire {scope : Scope} {method : Text}
    (hScheme : IsWebScheme (scope.scheme.getD defaultScheme)) (hMethod : scope.method = some method)
    (hHeaders : scope.headers = some headers) (hPath : scope.escapedPath = .ok path)
    (hRoot : path.head? = some '/') (hAddressed : scope.IsAddressed headers path) :
    ∃ request p query location, Request.ofScope scope = .ok request ∧
      Uri.read request.url = .ok p ∧ scope.escapedQuery = .ok query ∧
      scope.location? (scope.scheme.getD defaultScheme) headers = .ok location ∧
      p.path = path ∧ p.query = query ∧ p.fragment = [] ∧
      p.scheme = location.elim [] (fun _ => scope.scheme.getD defaultScheme) ∧
      p.netloc = location.getD [] ∧ p.username? = none ∧
      p.requestUri = path ++ Uri.introduced '?' query := by
  have hChars := isPathChar_escapedPath hPath
  have hQuery := isQueryChar_escape (scope.queryString.getD [])
  have hUri {p : Uri.Parts} (hp : p.path = path) :
      p.requestUri = path ++ Uri.introduced '?' p.query := by
    obtain ⟨rest, rfl⟩ := List.head?_eq_some_iff.mp hRoot
    rw [Uri.Parts.requestUri, hp]
    rfl
  rcases hAddressed.location? hScheme with ⟨location, hLocation, hSafe⟩ | ⟨hLocation, hSingle⟩
  · have hRooted : (urlParts (scope.scheme.getD defaultScheme) location path
        (Percent.escape querySafe (scope.queryString.getD []))).path = path :=
      Uri.rooted_of_head? hRoot
    have hRequest := ofScope_eq_ok_iff.mpr
      ⟨path, method, headers, some location, hPath, hMethod, hHeaders, hLocation, rfl⟩
    have hRead := read_assemble hScheme hSafe hChars hQuery
    exact ⟨_, _, _, some location, hRequest, hRead, escapedQuery_eq scope, hLocation, hRooted, rfl,
      rfl, rfl, rfl, hSafe.username?, hUri hRooted⟩
  · have hRequest := ofScope_eq_ok_iff.mpr
      ⟨path, method, headers, none, hPath, hMethod, hHeaders, hLocation, rfl⟩
    have hRead :=
      read_assemble_none (scope.scheme.getD defaultScheme) hChars hQuery hRoot hSingle
    exact ⟨_, _, _, none, hRequest, hRead, escapedQuery_eq scope, hLocation, rfl, rfl, rfl, rfl,
      rfl, rfl, hUri rfl⟩

def strayMarks : Scope where
  kind := some "http".toList
  method := some "GET".toList
  rawPath := some (Headers.asciiName "/[#//\n%3f\\é?@")
  queryString := some (Headers.asciiName "a=#?\"\t/@")
  headers := some [(Headers.asciiName "host", Headers.asciiName "[::1]:8080")]

theorem strayMarks_on_wire :
    ∃ request p, Request.ofScope strayMarks = .ok request ∧ Uri.read request.url = .ok p ∧
      p.scheme = "http".toList ∧ p.netloc = "[::1]:8080".toList ∧
      p.path = "/%5B%23//%0A%3f%5C%E9".toList ∧ p.query = "a=%23?%22%09/@".toList ∧
      p.fragment = [] ∧ p.username? = none ∧
      p.requestUri = "/%5B%23//%0A%3f%5C%E9?a=%23?%22%09/@".toList := by
  have hHost : usableHost? [(Headers.asciiName "host", Headers.asciiName "[::1]:8080")] =
      some "[::1]:8080".toList := by decide
  have hPath : strayMarks.escapedPath = .ok "/%5B%23//%0A%3f%5C%E9".toList := by rfl
  obtain ⟨request, p, query, location, hRequest, hRead, hQuery, hLocation, hWirePath, hWireQuery,
    hFragment, hParsed, hNetloc, hUser, hUri⟩ :=
    target_on_wire (Or.inl rfl) rfl rfl hPath rfl (.host _ hHost)
  have hWritten : strayMarks.escapedQuery = .ok "a=%23?%22%09/@".toList := by rfl
  obtain rfl := Except.ok.inj (hQuery.symm.trans hWritten)
  have hNamed : strayMarks.location? defaultScheme
      [(Headers.asciiName "host", Headers.asciiName "[::1]:8080")] =
        .ok (some "[::1]:8080".toList) := by
    rw [Scope.location?, hHost]
  obtain rfl := Except.ok.inj (hLocation.symm.trans hNamed)
  exact ⟨request, p, hRequest, hRead, hParsed, hNetloc, hWirePath, hWireQuery, hFragment, hUser,
    hUri⟩

end RequestLog.Scope

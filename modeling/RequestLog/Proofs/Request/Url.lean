import RequestLog.Proofs.Builder.Draft
import RequestLog.Proofs.Text.Escapes
import RequestLog.Proofs.Uri.Location

/-!
# The URL of a scope

The path and the query of a scope are written with characters that end neither of them. So the URL
that is put together from them and a safe location is read without a fault, and reading gives the
path, rooted, and the query back.
-/

namespace RequestLog.Scope

theorem require_eq_ok_iff {α : Type} {key : String} {value : Option α} {a : α} :
    require key value = .ok a ↔ value = some a := by
  cases value with
  | none => simp [require]
  | some b => simp [require]

theorem escapedPath_of_path {scope : Scope} {path : Text} (h : scope.path = some path) :
    ∃ escaped, scope.escapedPath = .ok escaped := by
  unfold escapedPath
  split
  · exact ⟨_, rfl⟩
  · rw [h]
    exact ⟨_, rfl⟩

def isPathChar (c : Char) : Bool := Percent.isUnreserved c || (pathSafe ++ ['%']).contains c

def isQueryChar (c : Char) : Bool := Percent.isUnreserved c || querySafe.contains c

theorem isPathChar_escape {safe : Text} (hSafe : ∀ c ∈ safe, isPathChar c = true)
    (octets : Octets) : ∀ c ∈ Percent.escape safe octets, isPathChar c = true := by
  refine Percent.forall_mem_escape (by decide) (by decide) ?_ hSafe octets
  intro c hc
  rw [isPathChar, hc, Bool.true_or]

theorem isPathChar_escapedPath {scope : Scope} {path : Text} (h : scope.escapedPath = .ok path) :
    ∀ c ∈ path, isPathChar c = true := by
  unfold escapedPath at h
  split at h
  · cases h
    exact isPathChar_escape (List.all_eq_true.mp (by decide)) _
  · cases hPath : scope.path with
    | none => rw [hPath] at h; cases h
    | some given =>
      rw [hPath] at h
      cases h
      exact isPathChar_escape (List.all_eq_true.mp (by decide)) _

theorem escapedQuery_eq (scope : Scope) :
    scope.escapedQuery = .ok (Percent.escape querySafe (scope.queryString.getD [])) := by
  rw [escapedQuery, escapeQuery, Latin1.encode_decode]

theorem isQueryChar_escape (octets : Octets) :
    ∀ c ∈ Percent.escape querySafe octets, isQueryChar c = true := by
  refine Percent.forall_mem_escape (by decide) (by decide) ?_ (List.all_eq_true.mp (by decide))
    octets
  intro c hc
  rw [isQueryChar, hc, Bool.true_or]

theorem guardPath_of_isPathChar {path : Text} (h : ∀ c ∈ path, isPathChar c = true) :
    guardPath path = path := by
  induction path with
  | nil => rfl
  | cons c rest ih =>
    have hFirst : isPathChar c = true := h c List.mem_cons_self
    change (if c = '?' then _ else if c = '#' then _ else if c = '\\' then _ else [c]) ++
      guardPath rest = c :: rest
    rw [if_neg (ne_of_class hFirst (by decide)), if_neg (ne_of_class hFirst (by decide)),
      if_neg (ne_of_class hFirst (by decide)), ih fun x hx => h x (List.mem_cons_of_mem c hx)]
    rfl

theorem forall_mem_serverLocation {P : Char → Prop} (hColon : P ':') (hOpening : P '[')
    (hClosing : P ']') {scheme location : Text} {server : Server} (hHost : ∀ c ∈ server.host, P c)
    (hPort : ∀ c ∈ server.port.text, P c) (h : serverLocation scheme server = .ok location) :
    ∀ c ∈ location, P c := by
  have hBracketed : ∀ c ∈ bracketed server.host, P c := by
    unfold bracketed
    split
    · simp only [List.cons_append, List.forall_mem_cons, List.forall_mem_append]
      exact ⟨hOpening, hHost, hClosing, List.forall_mem_nil P⟩
    · exact hHost
  unfold serverLocation at h
  split at h
  · cases h
  · split at h
    · cases h
      exact hBracketed
    · cases h
      exact List.forall_mem_append.mpr ⟨hBracketed, List.forall_mem_cons.mpr ⟨hColon, hPort⟩⟩

theorem location?_cases {scope : Scope} {scheme location : Text} {headers : Headers}
    (h : scope.location? scheme headers = .ok (some location)) :
    usableHost? headers = some location ∨ usableHost? headers = none ∧
      ∃ server, scope.server = some server ∧ serverLocation scheme server = .ok location := by
  unfold location? at h
  split at h
  · next host hHost =>
    cases h
    exact Or.inl hHost
  · next hUnnamed =>
    split at h
    · next server hServer =>
      refine Or.inr ⟨hUnnamed, server, hServer, ?_⟩
      cases hFound : serverLocation scheme server with
      | error fault =>
        rw [hFound] at h
        cases h
      | ok found =>
        rw [hFound] at h
        cases h
        rfl
    · cases h

def IsWebScheme (scheme : Text) : Prop := scheme = "http".toList ∨ scheme = "https".toList

theorem IsWebScheme.isScheme {scheme : Text} (h : IsWebScheme scheme) : Uri.IsScheme scheme := by
  rcases h with rfl | rfl
  · exact ⟨'h', "ttp".toList, rfl, rfl, rfl, rfl⟩
  · exact ⟨'h', "ttps".toList, rfl, rfl, rfl, rfl⟩

def urlParts (scheme location path query : Text) : Uri.Parts :=
  ⟨scheme, location, Uri.rooted path, query, []⟩

section

variable {scheme location path query : Text}

/-- Characters of a path and of a query end neither of them. -/
theorem wellFormed_of_chars (hScheme : scheme = [] ∨ Uri.IsScheme scheme)
    (hInside : ∀ c ∈ location, Uri.endsNetloc c = false ∧ Uri.isBreak c = false)
    (hPath : ∀ c ∈ path, isPathChar c = true) (hQuery : ∀ c ∈ query, isQueryChar c = true) :
    Uri.Parts.WellFormed ⟨scheme, location, path, query, []⟩ where
  scheme := hScheme
  netloc c hc := (hInside c hc).1
  path_query := notMem_of_class hPath (by decide)
  path_fragment := notMem_of_class hPath (by decide)
  query_fragment := notMem_of_class hQuery (by decide)
  unbroken := by
    intro c hc
    simp only [List.append_nil, List.mem_append] at hc
    rcases hc with hc | hc | hc
    · exact (hInside c hc).2
    · exact Uri.isBreak_of_class (by decide) (by decide) (by decide) (hPath c hc)
    · exact Uri.isBreak_of_class (by decide) (by decide) (by decide) (hQuery c hc)

theorem wellFormed_urlParts (hScheme : Uri.IsScheme scheme)
    (hInside : ∀ c ∈ location, Uri.endsNetloc c = false ∧ Uri.isBreak c = false)
    (hPath : ∀ c ∈ path, isPathChar c = true) (hQuery : ∀ c ∈ query, isQueryChar c = true) :
    (urlParts scheme location path query).WellFormed := by
  refine wellFormed_of_chars (Or.inr hScheme) hInside ?_ hQuery
  intro c hc
  rcases Uri.mem_rooted hc with rfl | hc
  · decide
  · exact hPath c hc

theorem isLocated_urlParts (hNonempty : location ≠ []) :
    (urlParts scheme location path query).IsLocated :=
  Or.inl ⟨hNonempty, Uri.rooted_rooted path⟩

theorem assemble_eq (hNonempty : location ≠ []) (hPath : ∀ c ∈ path, isPathChar c = true) :
    assemble scheme (some location) path query =
      Uri.unsplit (urlParts scheme location path query) := by
  simp only [assemble, guardPath_of_isPathChar hPath]
  exact Uri.unsplit_rooted hNonempty

/-- Behind a location the path is written rooted, and so it is read. -/
theorem parts_assemble (hScheme : Uri.IsScheme scheme) (hNonempty : location ≠ [])
    (hInside : ∀ c ∈ location, Uri.endsNetloc c = false ∧ Uri.isBreak c = false)
    (hPath : ∀ c ∈ path, isPathChar c = true) (hQuery : ∀ c ∈ query, isQueryChar c = true) :
    Uri.parts (assemble scheme (some location) path query) =
      urlParts scheme location path query := by
  rw [assemble_eq hNonempty hPath]
  exact (wellFormed_urlParts hScheme hInside hPath hQuery).parts_unsplit
    (isLocated_urlParts hNonempty)

theorem read_assemble (hScheme : IsWebScheme scheme)
    (hLocation : Uri.IsSafeLocation location) (hPath : ∀ c ∈ path, isPathChar c = true)
    (hQuery : ∀ c ∈ query, isQueryChar c = true) :
    Uri.read (assemble scheme (some location) path query) =
      .ok (urlParts scheme location path query) := by
  have hParts := parts_assemble hScheme.isScheme hLocation.nonempty hLocation.inside hPath hQuery
  refine Uri.read_eq_ok_iff.mpr ⟨?_, hParts⟩
  rw [hParts]
  exact hLocation.accepted

end

theorem ofScope_eq_ok_iff {scope : Scope} {r : Request} : Request.ofScope scope = .ok r ↔
    ∃ path method headers location,
      scope.escapedPath = .ok path ∧ scope.method = some method ∧ scope.headers = some headers ∧
      scope.location? (scope.scheme.getD defaultScheme) headers = .ok location ∧
      r = {
        method := method
        url := assemble (scope.scheme.getD defaultScheme) location path
          (Percent.escape querySafe (scope.queryString.getD []))
        proto := scope.proto
        remoteAddress := scope.remoteAddress
        headers := headers } := by
  simp only [Request.ofScope, Except.bind_eq_ok_iff, escapedQuery_eq, require_eq_ok_iff,
    Except.ok.injEq, exists_eq_left', pure, Except.pure]
  constructor
  · rintro ⟨path, hPath, method, hMethod, headers, hHeaders, location, hLocation, rfl⟩
    exact ⟨path, method, headers, location, hPath, hMethod, hHeaders, hLocation, rfl⟩
  · rintro ⟨path, method, headers, location, hPath, hMethod, hHeaders, hLocation, rfl⟩
    exact ⟨path, hPath, method, hMethod, headers, hHeaders, location, hLocation, rfl⟩

/-- A scope with all its keys and with a usable host that is not in brackets. -/
structure IsRegular (scope : Scope) : Prop where
  kind : scope.kind = some "http".toList
  scheme : IsWebScheme (scope.scheme.getD defaultScheme)
  method : ∃ method, scope.method = some method
  path : ∃ path, scope.path = some path
  host : ∃ headers host, scope.headers = some headers ∧ usableHost? headers = some host ∧
    host.head? ≠ some '['

theorem isUsable_of_usableHost? {headers : Headers} {host : Text}
    (h : usableHost? headers = some host) : Uri.HostHeader.isUsable host = true := by
  unfold usableHost? at h
  split at h
  · split at h
    · next hUsable => exact Option.some.inj h ▸ hUsable
    · cases h
  · cases h

/-- The request of a regular scope has a URL that is read as it was put together. -/
theorem IsRegular.exists_request {scope : Scope} (h : scope.IsRegular) :
    ∃ request p, Request.ofScope scope = .ok request ∧ Uri.read request.url = .ok p ∧
      p.WellFormed ∧ p.IsLocated ∧ p.username? = none := by
  obtain ⟨path, hPath⟩ := h.path
  obtain ⟨escaped, hEscaped⟩ := escapedPath_of_path hPath
  obtain ⟨method, hMethod⟩ := h.method
  obtain ⟨headers, host, hHeaders, hHost, hBracket⟩ := h.host
  have hSafe := (Uri.isPlainLocation_of_isUsable (isUsable_of_usableHost? hHost) hBracket).isSafe
  have hLocation : scope.location? (scope.scheme.getD defaultScheme) headers = .ok (some host) := by
    rw [location?, hHost]
  have hChars := isPathChar_escapedPath hEscaped
  have hQuery := isQueryChar_escape (scope.queryString.getD [])
  refine ⟨_, urlParts (scope.scheme.getD defaultScheme) host escaped
      (Percent.escape querySafe (scope.queryString.getD [])),
    ofScope_eq_ok_iff.mpr ⟨escaped, method, headers, some host, hEscaped, hMethod, hHeaders,
      hLocation, rfl⟩, ?_, ?_, isLocated_urlParts hSafe.nonempty, hSafe.username?⟩
  · exact read_assemble h.scheme hSafe hChars hQuery
  · exact wellFormed_urlParts h.scheme.isScheme hSafe.inside hChars hQuery

end RequestLog.Scope

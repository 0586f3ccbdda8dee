import RequestLog.Proofs.Record.Integrity
import RequestLog.Proofs.Redaction.User
import RequestLog.Proofs.Request.Target

/-!
# What redaction leaves

Redaction writes a query and nothing else. Scheme, network location, path, fragment and user are
read from a redacted URL as from the given one, if that is anchored, and the target in a record
begins with the path of the request. The URL that a scope with a location makes has that location,
and so it is anchored.
-/

namespace RequestLog

namespace Uri

/-- The path of a target: that of the URL, or a slash for an empty one. -/
def Parts.targetPath (p : Parts) : Text := if p.path.isEmpty then ['/'] else p.path

theorem Parts.cut_requestUri {p : Parts} (h : '?' ∉ p.path) :
    (cut '?' p.requestUri).1 = p.targetPath := by
  have hMark : '?' ∉ p.targetPath := by
    unfold Parts.targetPath
    split
    · decide
    · exact h
  exact (cut_introduced hMark p.query).1

theorem notMem_path_of_read {url : Text} {p : Parts} (h : read url = .ok p) : '?' ∉ p.path := by
  obtain ⟨-, rfl⟩ := read_eq_ok_iff.mp h
  exact (wellFormed_parts url).path_query

end Uri

namespace Scope

/-- A scope whose URL is put together with a location: a usable host, or else the name of a server
without characters that would end a location or be dropped from it. -/
structure IsLocatedAt (scope : Scope) (headers : Headers) (location : Text) : Prop where
  scheme : Uri.IsScheme (scope.scheme.getD defaultScheme)
  fields : scope.headers = some headers
  named : scope.location? (scope.scheme.getD defaultScheme) headers = .ok (some location)
  clean : usableHost? headers = some location ∨
    location ≠ [] ∧ ∀ c ∈ location, Uri.endsNetloc c = false ∧ Uri.isBreak c = false

namespace IsLocatedAt

variable {scope : Scope} {headers : Headers} {location : Text}

theorem nonempty_and_inside (h : scope.IsLocatedAt headers location) :
    location ≠ [] ∧ ∀ c ∈ location, Uri.endsNetloc c = false ∧ Uri.isBreak c = false := by
  rcases h.clean with hUsable | hServer
  · have hSafe := Uri.isSafeLocation_of_isUsable (isUsable_of_usableHost? hUsable)
    exact ⟨hSafe.nonempty, hSafe.inside⟩
  · exact hServer

theorem parts_url (h : scope.IsLocatedAt headers location) {r : Request}
    (hRequest : Request.ofScope scope = .ok r) :
    ∃ path query, scope.escapedPath = .ok path ∧
      Uri.parts r.url = urlParts (scope.scheme.getD defaultScheme) location path query := by
  obtain ⟨path, method, found, named, hPath, -, hFound, hNamed, rfl⟩ :=
    ofScope_eq_ok_iff.mp hRequest
  obtain rfl := Option.some.inj (hFound.symm.trans h.fields)
  obtain rfl := Except.ok.inj (hNamed.symm.trans h.named)
  obtain ⟨hNonempty, hInside⟩ := h.nonempty_and_inside
  exact ⟨path, _, hPath, parts_assemble h.scheme hNonempty hInside (isPathChar_escapedPath hPath)
    (isQueryChar_escape _)⟩

end IsLocatedAt

end Scope

namespace Redaction

variable {σ : Type} {url : Text} {p : Uri.Parts}

theorem uri_of_recordFor {s : Settings} {r : Request} {o : Observer σ} {clock : Clock}
    {call : LogCall} {record : LogRecord} (hRead : Uri.read r.url = .ok p)
    (hAnchored : p.IsAnchored) (hRecord : Builder.recordFor s r o clock call = .ok record) :
    record.base.uri = (partsAfter s.redactedParams s.redactionMarker p).requestUri := by
  obtain ⟨base, hBuild, rfl⟩ := Builder.recordFor_eq_ok_iff.mp hRecord
  have hDraft := Builder.build_eq_ok_iff.mp hBuild
  rw [draft_of_isAnchored hRead hAnchored] at hDraft
  obtain ⟨user, -, -, hUri⟩ := Builder.draftFrom_eq_ok hDraft
  rw [Builder.base_present]
  exact hUri

/-- Of an anchored URL redaction changes the query alone, whether or not it finds anything there,
and whatever is redacted the target in a record keeps the path. -/
theorem redact_keeps_parts (hRead : Uri.read url = .ok p) (hAnchored : p.IsAnchored)
    (names : List Text) (marker : Text) :
    (∃ redacted after, redact names marker url = .ok redacted ∧ Uri.read redacted = .ok after ∧
      after.scheme = p.scheme ∧ after.netloc = p.netloc ∧ after.path = p.path ∧
      after.fragment = p.fragment ∧ after.username? = p.username? ∧
      after.query = (redactQuery? names marker p.query).getD p.query) ∧
    (∀ (s : Settings) (r : Request) (o : Observer σ) (clock : Clock) (call : LogCall)
      (record : LogRecord), r.url = url → Builder.recordFor s r o clock call = .ok record →
      (cut '?' record.base.uri).1 = p.targetPath) ∧
    ∀ (scope : Scope) (headers : Headers) (location : Text) (r : Request),
      scope.IsLocatedAt headers location → Request.ofScope scope = .ok r →
      (Uri.parts r.url).netloc = location ∧ (Uri.parts r.url).IsAnchored := by
  refine ⟨?_, ?_, ?_⟩
  · obtain ⟨redacted, hRedact, hAfter⟩ := read_redact_of_isAnchored hRead hAnchored names marker
    exact ⟨redacted, _, hRedact, hAfter, rfl, rfl, rfl, rfl, rfl, rfl⟩
  · rintro s r o clock call record rfl hRecord
    have hPath : '?' ∉ p.path := Uri.notMem_path_of_read hRead
    rw [uri_of_recordFor hRead hAnchored hRecord]
    exact Uri.Parts.cut_requestUri hPath
  · intro scope headers location r hLocated hRequest
    obtain ⟨path, query, -, hParts⟩ := hLocated.parts_url hRequest
    rw [hParts]
    exact ⟨rfl, Or.inl hLocated.nonempty_and_inside.1⟩

/-- A scheme in capitals, a user part, an address in brackets and a path that begins twice. -/
def bracketedUrl : Text := "HTTPS://al%C3%A9:pw@[::1]:80//x?k=1&%70=s&u=b#f?".toList

/-- No Host header, so that the server tells the location, and a target that is no path. -/
def servedScope : Scope where
  kind := some "http".toList
  method := some "OPTIONS".toList
  server := some ⟨"::1".toList, .number 8080⟩
  rawPath := some (Headers.asciiName "*")
  headers := some []

theorem bracketed_parts_kept :
    (∃ redacted after, redact [['u'], ['p']] "*&=?#".toList bracketedUrl = .ok redacted ∧
      Uri.read redacted = .ok after ∧ after.scheme = "https".toList ∧
      after.netloc = "al%C3%A9:pw@[::1]:80".toList ∧ after.path = "//x".toList ∧
      after.fragment = "f?".toList ∧ after.username? = some "al%C3%A9".toList ∧
      after.query = "k=1&p=%2A%26%3D%3F%23&u=%2A%26%3D%3F%23".toList) ∧
    (∃ record, Builder.recordFor {} { loginRequest [] with url := bracketedUrl }
        AccessRecord.unwritten AccessRecord.stillClock .access = .ok record ∧
      (cut '?' record.base.uri).1 = "//x".toList) ∧
    ∃ r, Request.ofScope servedScope = .ok r ∧
      (Uri.parts r.url).netloc = "[::1]:8080".toList ∧ (Uri.parts r.url).IsAnchored := by
  have hRead : Uri.read bracketedUrl = .ok (Uri.parts bracketedUrl) := by decide +kernel
  obtain ⟨⟨redacted, after, hRedact, hAfter, hScheme, hNetloc, hPath, hFragment, hUser, hQuery⟩,
      hTarget, hLocated⟩ :=
    redact_keeps_parts (σ := Recorder) hRead (Or.inl (by decide +kernel)) [['u'], ['p']]
      "*&=?#".toList
  refine ⟨⟨redacted, after, hRedact, hAfter, hScheme.trans ?_, hNetloc.trans ?_, hPath.trans ?_,
    hFragment.trans ?_, hUser.trans ?_, hQuery.trans ?_⟩, ?_, ?_⟩
  iterate 6 decide +kernel
  · have hMade : (Builder.recordFor {} { loginRequest [] with url := bracketedUrl }
        AccessRecord.unwritten AccessRecord.stillClock .access).toOption.isSome = true := by
      decide +kernel
    obtain ⟨record, hRecord⟩ := Except.exists_ok_of_isSome hMade
    refine ⟨record, hRecord, (hTarget _ _ _ _ _ _ rfl hRecord).trans ?_⟩
    decide +kernel
  · have hMade : (Request.ofScope servedScope).toOption.isSome = true := by decide +kernel
    obtain ⟨r, hRequest⟩ := Except.exists_ok_of_isSome hMade
    have hSafe : Uri.IsSafeLocation "[::1]:8080".toList :=
      Uri.isSafeLocation_of_isUsable (by decide +kernel)
    have hServed : servedScope.IsLocatedAt [] "[::1]:8080".toList :=
      { scheme := ⟨'h', "ttp".toList, rfl, rfl, rfl, rfl⟩
        fields := rfl
        named := by decide +kernel
        clean := Or.inr ⟨hSafe.nonempty, hSafe.inside⟩ }
    exact ⟨r, hRequest, hLocated _ _ _ _ hServed hRequest⟩

end Redaction

end RequestLog

import RequestLog.Proofs.Query.Escaped
import RequestLog.Proofs.Record.Target
import RequestLog.Proofs.Redaction.Secrecy
import RequestLog.Proofs.Uri.Trailing

/-!
# The parameters of a request

The query of a scope is escaped without a change to its parameters: what is read from the escaped
query, name by name and value by value, is what its octets on the wire stand for. It can be escaped
any number of times. The URL of a bounded web scope ends in this query, so the parameters that
redaction and everything behind it look at are those that the client sent.
-/

namespace RequestLog.Scope

theorem keepsMarks_query :
    Query.KeepsMarks fun c => Percent.isUnreserved c || querySafe.contains c where
  toKeepsEscapes := Percent.keepsEscapes_of_mem (by decide)
  plus := by decide
  ampersand := by decide
  equals := by decide

theorem isAscii_querySafe : IsAscii querySafe := by decide

theorem octetItems_escape (octets : Octets) :
    Query.octetItems (Utf8.encode (Percent.escape querySafe octets)) = Query.octetItems octets := by
  rw [Percent.encode_escape isAscii_querySafe]
  exact Query.octetItems_escapedOctets keepsMarks_query octets

theorem escapeQuery_escape (octets : Octets) :
    escapeQuery (Percent.escape querySafe octets) = .ok (Percent.escape querySafe octets) := by
  have hAscii := Percent.isAscii_escape isAscii_querySafe octets
  have hFits : ∀ c ∈ Percent.escape querySafe octets, Latin1.fits c = true := by
    intro c hc
    have hCode := hAscii c hc
    exact decide_eq_true (by omega)
  rw [escapeQuery, Latin1.encode_eq_ok hFits]
  exact congrArg Except.ok (Percent.escape_asciiOctets hAscii (isQueryChar_escape octets))

variable {scope : Scope} {headers : Headers}

/-- Neither the scheme nor the location nor the path of a URL begins a query or a fragment. -/
theorem query_assemble {scheme path query : Text} {location : Option Text}
    (hScheme : IsWebScheme scheme)
    (hLocation : ∀ l, location = some l → ∀ c ∈ l, Uri.endsNetloc c = false)
    (hPath : ∀ c ∈ path, isPathChar c = true) (hQuery : ∀ c ∈ query, isQueryChar c = true) :
    (Uri.parts (assemble scheme location path query)).query = query := by
  have hNumber : '#' ∉ query := notMem_of_class hQuery (by decide)
  have hUnbroken : ∀ c ∈ query, Uri.isBreak c = false :=
    fun c hc => Uri.isBreak_of_class (by decide) (by decide) (by decide) (hQuery c hc)
  simp only [assemble, guardPath_of_isPathChar hPath]
  cases location with
  | none =>
    have hBefore := isPathChar_guardSlashes hPath
    exact Uri.query_parts_append (notMem_of_class hBefore (by decide))
      (notMem_of_class hBefore (by decide)) hNumber hUnbroken
  | some location =>
    refine Uri.query_parts_unsplit ?_ rfl hNumber hUnbroken
    have hMarks {P : Char → Bool} (hQuestion : P '?' = false) (hHash : P '#' = false) (c : Char)
        (hc : P c = true) : c ≠ '?' ∧ c ≠ '#' := ⟨ne_of_class hc hQuestion, ne_of_class hc hHash⟩
    simp only [List.forall_mem_append]
    refine ⟨?_, ?_, ?_⟩
    · exact fun c hc => hMarks (by decide) (by decide) c (hScheme.isScheme.isSchemeChar c hc)
    · intro c hc
      have hInside : (!Uri.endsNetloc c) = true := by
        rw [hLocation location rfl c hc]
        rfl
      exact hMarks (P := fun c => !Uri.endsNetloc c) (by decide) (by decide) c hInside
    · exact fun c hc => hMarks (by decide) (by decide) c (hPath c hc)

/-- What redaction reads from the URL of a request are the parameters of its scope. -/
theorem IsBounded.items_eq (hScheme : IsWebScheme (scope.scheme.getD defaultScheme))
    (hHeaders : scope.headers = some headers) (h : scope.IsBounded headers) {r : Request}
    (hRequest : Request.ofScope scope = .ok r) :
    r.items = (Query.octetItems (scope.queryString.getD [])).map fun item =>
      (Utf8.decodeLossy item.1, Utf8.decodeLossy item.2) := by
  obtain ⟨path, method, found, location, hPath, -, hFound, hLocation, rfl⟩ :=
    ofScope_eq_ok_iff.mp hRequest
  rw [hHeaders] at hFound
  cases hFound
  have hEnds : ∀ l, location = some l → ∀ c ∈ l, Uri.endsNetloc c = false := by
    rintro l rfl
    exact h.endsNetloc hLocation
  rw [Request.items, query_assemble hScheme hEnds (isPathChar_escapedPath hPath)
    (isQueryChar_escape _), Query.items, octetItems_escape]

/-- Escaping a query leaves its parameters as they are, malformed escapes and octets that are no
text included, and does nothing to what is escaped already. -/
theorem escapeQuery_keeps_parameters (octets : Octets) :
    ∃ query, escapeQuery (Latin1.decode octets) = .ok query ∧
      Query.octetItems (Utf8.encode query) = Query.octetItems octets ∧
      escapeQuery query = .ok query ∧
      ∀ scope headers r, IsWebScheme (scope.scheme.getD defaultScheme) →
        scope.headers = some headers → scope.IsBounded headers →
        scope.queryString.getD [] = octets → Request.ofScope scope = .ok r →
        r.items = (Query.octetItems octets).map fun item =>
          (Utf8.decodeLossy item.1, Utf8.decodeLossy item.2) := by
  refine ⟨Percent.escape querySafe octets, ?_, octetItems_escape octets, escapeQuery_escape octets,
    ?_⟩
  · rw [escapeQuery, Latin1.encode_decode]
  · rintro scope headers r hScheme hHeaders hBounded rfl hRequest
    exact hBounded.items_eq hScheme hHeaders hRequest

/-- Escapes that are cut short, octets and marks that are not escaped, and empty pieces. -/
def searched : Octets := Headers.asciiName "p=%4é&&%26=+%&x\"#\t=%&é%%41=\n1=%2B"

def search : Scope where
  kind := some "http".toList
  method := some "GET".toList
  path := some "/find".toList
  queryString := some searched
  headers := some [(Headers.asciiName "host", Headers.asciiName "h.example")]

theorem search_parameters_kept :
    (∃ query, escapeQuery (Latin1.decode searched) = .ok query ∧
      Query.octetItems (Utf8.encode query) =
        [("p", "%4é"), ("&", " %"), ("x\"#\t", "%"), ("é%A", "\n1=+")].map
          (fun item => (Headers.asciiName item.1, Headers.asciiName item.2)) ∧
      escapeQuery query = .ok query) ∧
    ∃ r, Request.ofScope search = .ok r ∧
      r.items = [("p", "%4\uFFFD"), ("&", " %"), ("x\"#\t", "%"), ("\uFFFD%A", "\n1=+")].map
        fun item => (item.1.toList, item.2.toList) := by
  obtain ⟨query, hQuery, hItems, hAgain, hScopes⟩ := escapeQuery_keeps_parameters searched
  constructor
  · exact ⟨query, hQuery, hItems.trans (by decide +kernel), hAgain⟩
  · have hSome : (Request.ofScope search).toOption.isSome = true := by decide +kernel
    obtain ⟨r, hFound⟩ := Option.isSome_iff_exists.mp hSome
    have hRequest : Request.ofScope search = .ok r := Except.eq_ok_of_toOption_eq_some hFound
    have hBounded : search.IsBounded [(Headers.asciiName "host", Headers.asciiName "h.example")] :=
      .host "h.example".toList (by decide)
    have hRead := hScopes search _ r (Or.inl rfl) rfl hBounded rfl hRequest
    exact ⟨r, hRequest, hRead.trans (by decide +kernel)⟩

end RequestLog.Scope

import RequestLog.Proofs.Identity
import RequestLog.Proofs.Redaction.Reading
import RequestLog.Proofs.Redaction.Secrecy
import RequestLog.Proofs.Uri.Anchored

/-!
# The user of a redacted URL

Redacting an anchored URL leaves its user part and the values of all names that are not listed, so
who is named by it, or else by the credentials of the request, stays the same, faults included. A
user parameter that is redacted itself names the marker.
-/

namespace RequestLog.Redaction

variable {names : List Text} {marker param url : Text} {p : Uri.Parts}

theorem read_redact_of_isAnchored (hRead : Uri.read url = .ok p) (h : p.IsAnchored)
    (names : List Text) (marker : Text) :
    ∃ redacted, redact names marker url = .ok redacted ∧
      Uri.read redacted = .ok (partsAfter names marker p) := by
  obtain ⟨-, rfl⟩ := Uri.read_eq_ok_iff.mp hRead
  exact read_redact hRead (Uri.wellFormed_parts url) (Uri.isLocated_parts h) names marker

/-- The draft of a request whose URL is anchored reads the parts that redaction leaves it. -/
theorem draft_of_isAnchored {σ : Type} {s : Settings} {r : Request} (hRead : Uri.read r.url = .ok p)
    (h : p.IsAnchored) (o : Observer σ) (clock : Clock) :
    Builder.draft s r o clock = Builder.draftFrom s r o clock
      (partsAfter s.redactedParams s.redactionMarker p) := by
  obtain ⟨redacted, hRedact, hAfter⟩ :=
    read_redact_of_isAnchored hRead h s.redactedParams s.redactionMarker
  rw [Builder.draft_eq, hRedact]
  change Uri.read redacted >>= _ = _
  rw [hAfter]
  rfl

theorem values_redactedQuery_of_isSensitive {query : Text}
    (h : IsSensitive names (Query.items query) param) (marker : Text) :
    Query.values param (Query.items (redactedQuery names marker query)) = [marker] := by
  obtain ⟨written, hWritten⟩ := redactQuery?_isSome marker ⟨param, h⟩
  rw [redactedQuery, hWritten, Option.getD_some, items_eq_of_redactQuery? hWritten]
  apply values_redactItems_of_mem
  · exact nodup_eraseDups _
  · exact mem_sensitive_iff.mpr h

/-- Redaction does not change who made a request, unless it replaces the very parameter that tells
it; the marker is then taken for the user. -/
theorem resolve_redact (hRead : Uri.read url = .ok p) (hAnchored : p.IsAnchored) (r : Request)
    (names : List Text) (marker param : Text) :
    ∃ redacted, redact names marker url = .ok redacted ∧
      (param ∉ names → Identity.resolve r redacted param = Identity.resolve r url param) ∧
      (IsSensitive names (Query.items p.query) param → marker ≠ [] →
        Identity.resolve r redacted param = .ok marker) := by
  obtain ⟨redacted, hRedact, hAfter⟩ := read_redact_of_isAnchored hRead hAnchored names marker
  have hResolve := Identity.resolve_of_read hAfter r param
  refine ⟨redacted, hRedact, ?_, ?_⟩
  · intro hUnlisted
    rw [hResolve, Identity.resolve_of_read hRead]
    apply Identity.ofParts_congr
    · exact username?_partsAfter names marker p
    · exact firstValue?_redactedQuery hUnlisted marker p.query
    · rfl
  · intro hSensitive hMarker
    rw [hResolve]
    apply Identity.ofParts_of_named
    rw [query_partsAfter, Query.firstValue?, values_redactedQuery_of_isSensitive hSensitive]
    exact if_neg (by simpa using hMarker)

/-- The first value of the user parameter is empty, so that the user part names the user. -/
def guestUrl : Text := "http://al%C3%A9:pw@h/x?k=1&u=&%75=b&p=s&p=t#f".toList

def nestedUrl : Text := "/x?u=a%26u&p=&u=b".toList

theorem guest_still_named :
    (∃ redacted, redact [['p'], ['k']] "*&=".toList guestUrl = .ok redacted ∧
      Identity.resolve (loginRequest []) redacted ['u'] = .ok "alé".toList) ∧
    ∃ redacted, redact [['p'], ['u'], ['u']] "*&=".toList nestedUrl = .ok redacted ∧
      Identity.resolve (loginRequest []) redacted ['u'] = .ok "*&=".toList := by
  constructor
  · have hRead : Uri.read guestUrl = .ok (Uri.parts guestUrl) := by decide +kernel
    have hUser : Identity.resolve (loginRequest []) guestUrl ['u'] = .ok "alé".toList := by
      decide +kernel
    obtain ⟨redacted, hRedact, hSame, -⟩ := resolve_redact hRead (Or.inl (by decide +kernel))
      (loginRequest []) [['p'], ['k']] "*&=".toList ['u']
    exact ⟨redacted, hRedact, (hSame (by decide)).trans hUser⟩
  · have hRead : Uri.read nestedUrl = .ok (Uri.parts nestedUrl) := by decide +kernel
    have hAnchored : (Uri.parts nestedUrl).IsAnchored := Or.inr ⟨['x'], by decide +kernel⟩
    obtain ⟨redacted, hRedact, -, hMarker⟩ := resolve_redact hRead hAnchored
      (loginRequest []) [['p'], ['u'], ['u']] "*&=".toList ['u']
    exact ⟨redacted, hRedact, hMarker (by decide +kernel) (by decide)⟩

end RequestLog.Redaction

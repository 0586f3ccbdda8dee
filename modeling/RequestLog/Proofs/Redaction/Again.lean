import RequestLog.Proofs.Redaction.Items

/-!
# Redacting again

In a redacted query each sensitive name has the marker as its one value, so it is sensitive there
too unless the marker is empty. The items that would be written for it are those that stand there
already, and a second redaction leaves the URL as it is.
-/

namespace RequestLog.Redaction

variable {names found : List Text} {name marker url query written : Text} {items : List Item}
  {p : Uri.Parts}

/-- The first value of a name that was sensitive is the marker now, that of another what it was. -/
theorem isSensitive_redactItems :
    IsSensitive names (redactItems (sensitive names items) marker items) name ↔
      IsSensitive names items name ∧ marker ≠ [] := by
  by_cases hName : IsSensitive names items name
  · have hValues := values_redactItems_of_mem (enumerates_sensitive names items).nodup
      (mem_sensitive_iff.mpr hName) marker items
    constructor
    · rintro ⟨-, value, rest, hFirst, hValue⟩
      rw [hValues] at hFirst
      obtain rfl := (List.cons.inj hFirst).1
      exact ⟨hName, hValue⟩
    · rintro ⟨-, hMarker⟩
      exact ⟨hName.1, marker, [], hValues, hMarker⟩
  · have hValues := values_redactItems (mt mem_sensitive_iff.mp hName) marker items
    have hSame : IsSensitive names (redactItems (sensitive names items) marker items) name ↔
        IsSensitive names items name := by
      rw [IsSensitive, hValues, IsSensitive]
    exact iff_of_false (mt hSame.mp hName) fun h => hName h.1

theorem redactItems_redactItems (h : found.Nodup) (marker : Text) (items : List Item) :
    redactItems found marker (redactItems found marker items) = redactItems found marker items := by
  apply IsSorted.eq_of_values
  · exact isSorted_sortByName _
  · exact isSorted_sortByName _
  · intro name
    by_cases hName : name ∈ found
    · rw [values_redactItems_of_mem h hName, values_redactItems_of_mem h hName]
    · rw [values_redactItems hName]

theorem sensitive_redactItems (h : marker ≠ []) :
    sensitive names (redactItems (sensitive names items) marker items) = sensitive names items :=
  sensitive_eq_iff.mpr fun _ => isSensitive_redactItems.trans (and_iff_left h)

theorem exists_isSensitive (h : redactQuery? names marker query = some written) :
    ∃ name, IsSensitive names (Query.items query) name := by
  by_contra hNone
  rw [redactQuery?_eq_none (not_exists.mp hNone)] at h
  cases h

/-- An empty marker leaves nothing to redact in the query that was written. With any other marker
the same query is written again. -/
theorem redactQuery?_again (h : redactQuery? names marker query = some written) :
    redactQuery? names marker written = if marker = [] then none else some written := by
  have hItems := items_eq_of_redactQuery? h
  split
  · next hMarker =>
    apply redactQuery?_eq_none
    intro name hName
    rw [hItems, isSensitive_redactItems] at hName
    exact hName.2 hMarker
  · next hMarker =>
    -- A name that was sensitive has the marker as its first value, so the query is written anew.
    obtain ⟨name, hName⟩ := exists_isSensitive h
    have hStill : IsSensitive names (Query.items written) name := by
      rw [hItems]
      exact isSensitive_redactItems.mpr ⟨hName, hMarker⟩
    obtain ⟨again, hAgain⟩ := redactQuery?_isSome marker ⟨name, hStill⟩
    have hSame : again = written := by
      rw [redactQuery?_eq_some hAgain, hItems, sensitive_redactItems hMarker,
        redactItems_redactItems (enumerates_sensitive _ _).nodup, redactQuery?_eq_some h]
    rw [hAgain, hSame]

theorem redactParts_partsAfter (names : List Text) (marker url : Text) (p : Uri.Parts) :
    redactParts names marker (redactParts names marker url p) (partsAfter names marker p) =
      redactParts names marker url p := by
  cases hQuery : redactQuery? names marker p.query with
  | none =>
    have hUrl : redactParts names marker url p = url := by rw [redactParts, hQuery]
    rw [hUrl, redactParts, query_partsAfter, redactedQuery, hQuery, Option.getD_none, hQuery]
  | some written =>
    have hUrl : redactParts names marker url p = Uri.unsplit { p with query := written } := by
      rw [redactParts, hQuery]
    rw [hUrl, redactParts, query_partsAfter, redactedQuery, hQuery, Option.getD_some,
      redactQuery?_again hQuery]
    split_ifs with hMarker
    · rfl
    · rfl

/-- Redacting an anchored URL once more with the same names and the same marker changes nothing. -/
theorem redact_redact (hRead : Uri.read url = .ok p) (hAnchored : p.IsAnchored)
    (names : List Text) (marker : Text) :
    ∃ redacted, redact names marker url = .ok redacted ∧
      redact names marker redacted = .ok redacted := by
  obtain ⟨redacted, hRedact, hAfter⟩ := read_redact_of_isAnchored hRead hAnchored names marker
  refine ⟨redacted, hRedact, ?_⟩
  rw [redact, hRead, Except.map] at hRedact
  obtain rfl := Except.ok.inj hRedact
  rw [redact, hAfter, Except.map, redactParts_partsAfter]

/-- The marker of the first has characters that are escaped; that of the second is empty. -/
theorem redacted_urls_kept :
    (∃ redacted, redact [['u'], ['p'], ['k']] "*&= é".toList mailboxUrl = .ok redacted ∧
      redact [['u'], ['p'], ['k']] "*&= é".toList redacted = .ok redacted) ∧
    redact [['u'], ['p']] [] nestedUrl = .ok "/x?p=&u=".toList ∧
    redact [['u'], ['p']] [] "/x?p=&u=".toList = .ok "/x?p=&u=".toList := by
  constructor
  · have hRead : Uri.read mailboxUrl = .ok (Uri.parts mailboxUrl) := by decide +kernel
    exact redact_redact hRead (Or.inl (by decide +kernel)) _ _
  · have hRead : Uri.read nestedUrl = .ok (Uri.parts nestedUrl) := by decide +kernel
    have hAnchored : (Uri.parts nestedUrl).IsAnchored := Or.inr ⟨['x'], by decide +kernel⟩
    have hOnce : redact [['u'], ['p']] [] nestedUrl = .ok "/x?p=&u=".toList := by decide +kernel
    obtain ⟨redacted, hRedact, hAgain⟩ := redact_redact hRead hAnchored [['u'], ['p']] []
    obtain rfl := Except.ok.inj (hRedact.symm.trans hOnce)
    exact ⟨hOnce, hAgain⟩

end RequestLog.Redaction

import RequestLog.Proofs.Redaction.User

/-!
# The items of a redacted query

The items of a redacted URL are those of the other names and one with the marker for each sensitive
name, stably sorted by name. Neither the order in which the sensitive names are taken nor the order
of the listed ones matters.
-/

namespace RequestLog.Redaction

/-- The sensitive names of a query, each once, in whatever order they are taken. -/
structure Enumerates (names : List Text) (items : List Item) (found : List Text) : Prop where
  nodup : found.Nodup
  mem_iff : ∀ name, name ∈ found ↔ IsSensitive names items name

section Enumerates

variable {names names₁ names₂ found found₁ found₂ : List Text} {items : List Item}

theorem enumerates_sensitive (names : List Text) (items : List Item) :
    Enumerates names items (sensitive names items) where
  nodup := nodup_eraseDups _
  mem_iff := fun _ => mem_sensitive_iff

theorem isSensitive_congr (h : ∀ name, name ∈ names₁ ↔ name ∈ names₂) (name : Text) :
    IsSensitive names₁ items name ↔ IsSensitive names₂ items name :=
  and_congr_left fun _ => h name

theorem Enumerates.congr (hNames : ∀ name, name ∈ names₁ ↔ name ∈ names₂)
    (h : Enumerates names₁ items found) : Enumerates names₂ items found where
  nodup := h.nodup
  mem_iff := fun name => (h.mem_iff name).trans (isSensitive_congr hNames name)

theorem Enumerates.redactItems_eq (h : Enumerates names items found) (marker : Text) :
    redactItems found marker items =
      (plainItems names items ++ found.map fun name => (name, marker)).mergeSort
        fun a b => ¬b.1 < a.1 := by
  rw [redactItems, ← plainItems_eq h.mem_iff, sortByName_eq_mergeSort]

/-- In whatever order the sensitive names are taken, the items that are written are the same: each
of these names has the marker as its one value. -/
theorem Enumerates.redactItems_congr (h₁ : Enumerates names items found₁)
    (h₂ : Enumerates names items found₂) (marker : Text) :
    redactItems found₁ marker items = redactItems found₂ marker items := by
  apply IsSorted.eq_of_values
  · exact isSorted_sortByName _
  · exact isSorted_sortByName _
  · intro name
    by_cases hName : IsSensitive names items name
    · have hMem₁ := (h₁.mem_iff name).mpr hName
      have hMem₂ := (h₂.mem_iff name).mpr hName
      rw [values_redactItems_of_mem h₁.nodup hMem₁, values_redactItems_of_mem h₂.nodup hMem₂]
    · have hMem₁ := mt (h₁.mem_iff name).mp hName
      have hMem₂ := mt (h₂.mem_iff name).mp hName
      rw [values_redactItems hMem₁, values_redactItems hMem₂]

end Enumerates

section Redact

variable {names names₁ names₂ : List Text} {marker url query : Text} {p : Uri.Parts}

theorem redactQuery?_eq_none (h : ∀ name, ¬IsSensitive names (Query.items query) name) :
    redactQuery? names marker query = none := by
  have hNone : sensitive names (Query.items query) = [] :=
    List.eq_nil_iff_forall_not_mem.mpr fun name hMem => h name (mem_sensitive_iff.mp hMem)
  simp only [redactQuery?, hNone, List.isEmpty_nil, ↓reduceIte]

theorem redactQuery?_congr_names (h : ∀ name, name ∈ names₁ ↔ name ∈ names₂) (marker query : Text) :
    redactQuery? names₁ marker query = redactQuery? names₂ marker query := by
  by_cases hSome : ∃ name, IsSensitive names₁ (Query.items query) name
  · obtain ⟨written₁, hWritten₁⟩ := redactQuery?_isSome marker hSome
    obtain ⟨name, hName⟩ := hSome
    obtain ⟨written₂, hWritten₂⟩ :=
      redactQuery?_isSome marker ⟨name, (isSensitive_congr h name).mp hName⟩
    have hItems := ((enumerates_sensitive names₁ (Query.items query)).congr h).redactItems_congr
      (enumerates_sensitive names₂ (Query.items query)) marker
    rw [hWritten₁, hWritten₂, redactQuery?_eq_some hWritten₁, redactQuery?_eq_some hWritten₂,
      hItems]
  · have hNone₁ : ∀ name, ¬IsSensitive names₁ (Query.items query) name := not_exists.mp hSome
    have hNone₂ : ∀ name, ¬IsSensitive names₂ (Query.items query) name :=
      fun name hName => hNone₁ name ((isSensitive_congr h name).mpr hName)
    rw [redactQuery?_eq_none hNone₁, redactQuery?_eq_none hNone₂]

/-- Neither the order of the listed names nor how often one is listed matters. -/
theorem redact_congr_names (h : ∀ name, name ∈ names₁ ↔ name ∈ names₂) (marker url : Text) :
    redact names₁ marker url = redact names₂ marker url := by
  have hParts : redactParts names₁ marker url = redactParts names₂ marker url := by
    funext p
    rw [redactParts, redactQuery?_congr_names h, redactParts]
  rw [redact, hParts, redact]

/-- What redaction does to an anchored URL. Without sensitive names it is left alone. Otherwise its
query is written anew: what is read from it are the items of all other names and one item with the
marker for each sensitive name, stably sorted by name. -/
theorem items_redact (hRead : Uri.read url = .ok p) (hAnchored : p.IsAnchored)
    (names : List Text) (marker : Text) :
    ((∀ name, ¬IsSensitive names (Query.items p.query) name) →
      redact names marker url = .ok url) ∧
    ((∃ name, IsSensitive names (Query.items p.query) name) →
      ∃ redacted after, redact names marker url = .ok redacted ∧
        Uri.read redacted = .ok after ∧
        ∀ found, Enumerates names (Query.items p.query) found →
          redacted = Uri.unsplit
            { p with query := Query.render (redactItems found marker (Query.items p.query)) } ∧
          Query.items after.query =
            (plainItems names (Query.items p.query) ++
              found.map fun name => (name, marker)).mergeSort fun a b => ¬b.1 < a.1) ∧
    ∀ names', (∀ name, name ∈ names' ↔ name ∈ names) →
      redact names' marker url = redact names marker url := by
  refine ⟨?_, ?_, ?_⟩
  · intro hNone
    rw [redact, hRead, Except.map, redactParts, redactQuery?_eq_none hNone]
  · intro hSome
    obtain ⟨written, hWritten⟩ := redactQuery?_isSome marker hSome
    obtain ⟨redacted, hRedact, hAfter⟩ := read_redact_of_isAnchored hRead hAnchored names marker
    refine ⟨redacted, _, hRedact, hAfter, ?_⟩
    intro found hFound
    have hItems : written = Query.render (redactItems found marker (Query.items p.query)) := by
      rw [redactQuery?_eq_some hWritten,
        (enumerates_sensitive names _).redactItems_congr hFound marker]
    constructor
    · rw [redact, hRead, Except.map, redactParts, hWritten] at hRedact
      rw [← hItems]
      exact (Except.ok.inj hRedact).symm
    · rw [query_partsAfter, redactedQuery, hWritten, Option.getD_some, hItems,
        Query.items_render, hFound.redactItems_eq]
  · intro names' h
    exact redact_congr_names h marker url

/-- Two names are sensitive, one of them escaped and repeated; the first value of `k` is empty. -/
def mailboxUrl : Text := "//h/in?q=1&%70=s3cret&k=&b+c=%26&p=t&q=%C3%A9&k=z&=e&u=bob#f".toList

theorem mailbox_items_redacted :
    (∃ redacted after,
      redact [['u'], ['p'], ['k'], ['x'], ['p']] "*&= é".toList mailboxUrl = .ok redacted ∧
      Uri.read redacted = .ok after ∧
      Query.items after.query =
        [([], ['e']), ("b c".toList, ['&']), (['k'], []), (['k'], ['z']), (['p'], "*&= é".toList),
          (['q'], ['1']), (['q'], ['é']), (['u'], "*&= é".toList)]) ∧
    redact [['k'], ['x']] "*&= é".toList mailboxUrl = .ok mailboxUrl := by
  have hRead : Uri.read mailboxUrl = .ok (Uri.parts mailboxUrl) := by decide +kernel
  have hAnchored : (Uri.parts mailboxUrl).IsAnchored := Or.inl (by decide +kernel)
  constructor
  · obtain ⟨-, hSome, -⟩ := items_redact hRead hAnchored [['u'], ['p'], ['k'], ['x'], ['p']]
      "*&= é".toList
    obtain ⟨redacted, after, hRedact, hAfter, hItems⟩ := hSome ⟨['p'], by decide +kernel⟩
    refine ⟨redacted, after, hRedact, hAfter, ?_⟩
    rw [(hItems _ (enumerates_sensitive _ _)).2, ← sortByName_eq_mergeSort]
    decide +kernel
  · obtain ⟨hNone, -, -⟩ := items_redact hRead hAnchored [['k'], ['x']] "*&= é".toList
    apply hNone
    intro name hName
    have hMem := hName.1
    simp only [List.mem_cons, List.not_mem_nil, or_false] at hMem
    rcases hMem with rfl | rfl
    · exact absurd hName (by decide +kernel)
    · exact absurd hName (by decide +kernel)

end Redact

end RequestLog.Redaction

import RequestLog.Identity
import RequestLog.Proofs.Query.Reread
import RequestLog.Proofs.Redaction.Order
import RequestLog.Proofs.Uri.Rejoin

/-!
# Reading a redacted URL

Redacting a URL whose parts are well formed and located changes its query alone: the redacted URL
is read without a fault, and its other parts are those of the given one. The values of a name that
is not listed stay, so the URL names the same user before and after.
-/

namespace RequestLog.Redaction

variable {names : List Text} {marker : Text}

def redactedQuery (names : List Text) (marker query : Text) : Text :=
  (redactQuery? names marker query).getD query

def partsAfter (names : List Text) (marker : Text) (p : Uri.Parts) : Uri.Parts :=
  { p with query := redactedQuery names marker p.query }

@[simp] theorem query_partsAfter (names : List Text) (marker : Text) (p : Uri.Parts) :
    (partsAfter names marker p).query = redactedQuery names marker p.query := rfl

@[simp] theorem username?_partsAfter (names : List Text) (marker : Text) (p : Uri.Parts) :
    (partsAfter names marker p).username? = p.username? := rfl

theorem redactQuery?_eq_some {query written : Text}
    (h : redactQuery? names marker query = some written) :
    written = Query.render (redactItems (sensitive names (Query.items query)) marker
      (Query.items query)) := by
  simp only [redactQuery?] at h
  split at h
  · cases h
  · exact (Option.some.inj h).symm

theorem items_eq_of_redactQuery? {query written : Text}
    (h : redactQuery? names marker query = some written) :
    Query.items written =
      redactItems (sensitive names (Query.items query)) marker (Query.items query) := by
  rw [redactQuery?_eq_some h, Query.items_render]

/-- A redacted URL is the given one, or the given one put together anew with a written query. -/
theorem redact_cases {url redacted : Text} (h : redact names marker url = .ok redacted) :
    redacted = url ∨
      ∃ items, redacted = Uri.unsplit { Uri.parts url with query := Query.render items } := by
  cases hRead : Uri.read url with
  | error fault =>
    rw [redact, hRead] at h
    cases h
  | ok p =>
    rw [redact, hRead] at h
    cases h
    obtain rfl := (Uri.read_eq_ok_iff.mp hRead).2
    unfold redactParts
    split
    · next query hQuery =>
      rw [redactQuery?_eq_some hQuery]
      exact Or.inr ⟨_, rfl⟩
    · exact Or.inl rfl

theorem wellFormed_render {p : Uri.Parts} (h : p.WellFormed) (items : List Item) :
    Uri.Parts.WellFormed { p with query := Query.render items } :=
  { scheme := h.scheme
    netloc := h.netloc
    path_query := h.path_query
    path_fragment := h.path_fragment
    query_fragment := notMem_of_class (Query.isRenderedChar_render items) (by decide)
    unbroken := by
      intro c hc
      simp only [List.mem_append] at hc
      rcases hc with hc | hc | hc | hc
      · exact h.unbroken c (by simp [hc])
      · exact h.unbroken c (by simp [hc])
      · exact Uri.isBreak_of_class (by decide) (by decide) (by decide)
          (Query.isRenderedChar_render items c hc)
      · exact h.unbroken c (by simp [hc]) }

theorem read_redact {url : Text} {p : Uri.Parts} (hRead : Uri.read url = .ok p)
    (hForm : p.WellFormed) (hLocated : p.IsLocated) (names : List Text) (marker : Text) :
    ∃ redacted, redact names marker url = .ok redacted ∧
      Uri.read redacted = .ok (partsAfter names marker p) := by
  refine ⟨redactParts names marker url p, by rw [redact, hRead]; rfl, ?_⟩
  unfold redactParts partsAfter redactedQuery
  cases hQuery : redactQuery? names marker p.query with
  | none => exact hRead
  | some written =>
    obtain ⟨hAccepted, hParts⟩ := Uri.read_eq_ok_iff.mp hRead
    have hWritten := redactQuery?_eq_some hQuery
    subst hWritten
    refine (wellFormed_render hForm _).read_unsplit hLocated ?_
    rwa [hParts] at hAccepted

theorem values_redactedQuery {name : Text} (h : name ∉ names) (marker query : Text) :
    Query.values name (Query.items (redactedQuery names marker query)) =
      Query.values name (Query.items query) := by
  unfold redactedQuery
  cases hQuery : redactQuery? names marker query with
  | none => rfl
  | some written =>
    have hFound : name ∉ sensitive names (Query.items query) := by
      intro hMem
      rw [sensitive, List.mem_eraseDups] at hMem
      exact h (List.mem_filter.mp hMem).1
    rw [Option.getD_some, items_eq_of_redactQuery? hQuery, values_redactItems hFound]

theorem firstValue?_redactedQuery {name : Text} (h : name ∉ names) (marker query : Text) :
    Query.firstValue? name (Query.items (redactedQuery names marker query)) =
      Query.firstValue? name (Query.items query) := by
  rw [Query.firstValue?, values_redactedQuery h, Query.firstValue?]

end RequestLog.Redaction

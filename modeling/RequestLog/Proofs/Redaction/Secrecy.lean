import RequestLog.Proofs.Builder.Draft
import RequestLog.Proofs.Uri.Rejoin

/-!
# Secrecy of redacted values

Two requests are alike when nothing tells them apart but items of sensitive parameters: how many
there are, where they stand and what values they have. Alike requests have equal records, or equal
faults in place of records, and so equal lines.
-/

namespace RequestLog

def Request.items (r : Request) : List Redaction.Item := Query.items (Uri.parts r.url).query

namespace Redaction

/-- A listed name whose first value in a query is not empty. -/
def IsSensitive (names : List Text) (items : List Item) (name : Text) : Prop :=
  name ∈ names ∧ ∃ value rest, Query.values name items = value :: rest ∧ value ≠ []

theorem firstValue?_isSome_iff {name : Text} {items : List Item} :
    (Query.firstValue? name items).isSome ↔
      ∃ value rest, Query.values name items = value :: rest ∧ value ≠ [] := by
  unfold Query.firstValue?
  cases hValues : Query.values name items with
  | nil => simp
  | cons value rest => cases value <;> simp

theorem mem_sensitive_iff {names : List Text} {items : List Item} {name : Text} :
    name ∈ sensitive names items ↔ IsSensitive names items name := by
  rw [sensitive, List.mem_eraseDups, List.mem_filter, firstValue?_isSome_iff, IsSensitive]

instance (names : List Text) (items : List Item) (name : Text) :
    Decidable (IsSensitive names items name) :=
  decidable_of_iff (name ∈ sensitive names items) mem_sensitive_iff

theorem sensitive_eq_iff {names : List Text} {items₁ items₂ : List Item} :
    sensitive names items₁ = sensitive names items₂ ↔
      ∀ name, IsSensitive names items₁ name ↔ IsSensitive names items₂ name := by
  constructor
  · intro h name
    rw [← mem_sensitive_iff, ← mem_sensitive_iff, h]
  · intro h
    unfold sensitive
    congr 1
    apply List.filter_congr
    intro name hName
    have hFirst := h name
    simp only [IsSensitive, hName, true_and, ← firstValue?_isSome_iff] at hFirst
    exact Bool.eq_iff_iff.mpr hFirst

def plainItems (names : List Text) (items : List Item) : List Item :=
  items.filter fun item => ¬IsSensitive names items item.1

theorem plainItems_eq {names found : List Text} {items : List Item}
    (h : ∀ name, name ∈ found ↔ IsSensitive names items name) :
    plainItems names items = items.filter fun item => !found.contains item.1 := by
  apply List.filter_congr
  intro item _
  simp only [← h, List.contains_eq_mem, decide_not]

/-- The rewritten query depends on which names are sensitive and on the other items only. -/
theorem redactQuery?_congr {names : List Text} (marker : Text) {query₁ query₂ : Text}
    (hNames : ∀ name, IsSensitive names (Query.items query₁) name ↔
      IsSensitive names (Query.items query₂) name)
    (hPlain : plainItems names (Query.items query₁) = plainItems names (Query.items query₂)) :
    redactQuery? names marker query₁ = redactQuery? names marker query₂ := by
  have hSensitive := sensitive_eq_iff.mpr hNames
  rw [plainItems_eq fun _ => mem_sensitive_iff, plainItems_eq fun _ => mem_sensitive_iff,
    hSensitive] at hPlain
  simp only [redactQuery?, redactItems, hSensitive, hPlain]

theorem redactQuery?_isSome {names : List Text} (marker : Text) {query : Text}
    (h : ∃ name, IsSensitive names (Query.items query) name) :
    ∃ written, redactQuery? names marker query = some written := by
  obtain ⟨name, hName⟩ := h
  have hMem := mem_sensitive_iff.mpr hName
  have hNonempty : (sensitive names (Query.items query)).isEmpty = false := by
    rw [List.isEmpty_eq_false_iff]
    exact List.ne_nil_of_mem hMem
  simp only [redactQuery?, hNonempty]
  exact ⟨_, rfl⟩

/-- Nothing tells two requests apart but what is redacted. -/
structure Alike (names : List Text) (r₁ r₂ : Request) : Prop where
  method : r₁.method = r₂.method
  proto : r₁.proto = r₂.proto
  remoteAddress : r₁.remoteAddress = r₂.remoteAddress
  headers : r₁.headers = r₂.headers
  scheme : (Uri.parts r₁.url).scheme = (Uri.parts r₂.url).scheme
  netloc : (Uri.parts r₁.url).netloc = (Uri.parts r₂.url).netloc
  path : (Uri.parts r₁.url).path = (Uri.parts r₂.url).path
  fragment : (Uri.parts r₁.url).fragment = (Uri.parts r₂.url).fragment
  sensitive : ∀ name, IsSensitive names r₁.items name ↔ IsSensitive names r₂.items name
  nonempty : ∃ name, IsSensitive names r₁.items name
  plain : plainItems names r₁.items = plainItems names r₂.items

theorem Alike.redact_eq {names : List Text} {r₁ r₂ : Request} (h : Alike names r₁ r₂)
    (marker : Text) : redact names marker r₁.url = redact names marker r₂.url := by
  have hQuery := redactQuery?_congr marker h.sensitive h.plain
  obtain ⟨query, hWritten⟩ := redactQuery?_isSome marker h.nonempty
  have hParts : Uri.unsplit { Uri.parts r₁.url with query := query } =
      Uri.unsplit { Uri.parts r₂.url with query := query } := by
    simp only [h.scheme, h.netloc, h.path, h.fragment]
  simp only [redact, Uri.read_eq, h.netloc]
  split
  · simp only [Except.map, redactParts, ← hQuery, hWritten, hParts]
  · rfl

/-- What is redacted does not show in a record, nor in whether there is one, nor in a line. -/
theorem record_eq_of_alike {σ : Type} {s : Settings} {r₁ r₂ : Request}
    (h : Alike s.redactedParams r₁ r₂) (o : Observer σ) (clock : Clock) :
    Builder.build s r₁ o clock = Builder.build s r₂ o clock ∧
    (∀ detail, Builder.buildError s r₁ o clock detail = Builder.buildError s r₂ o clock detail) ∧
    ∀ call format, (Builder.recordFor s r₁ o clock call).map (LogRecord.line format) =
      (Builder.recordFor s r₂ o clock call).map (LogRecord.line format) := by
  have hDraft : Builder.draft s r₁ o clock = Builder.draft s r₂ o clock :=
    Builder.draft_congr h.method h.proto h.remoteAddress h.headers (h.redact_eq s.redactionMarker)
  have hBuild : Builder.build s r₁ o clock = Builder.build s r₂ o clock := by
    rw [Builder.build, Builder.build, hDraft]
  have hError (detail : Text) : Builder.buildError s r₁ o clock detail =
      Builder.buildError s r₂ o clock detail := by
    rw [Builder.buildError, Builder.buildError, hBuild]
  refine ⟨hBuild, hError, ?_⟩
  intro call format
  cases call with
  | access => simp only [Builder.recordFor, hBuild]
  | error detail => simp only [Builder.recordFor, hError]

def loginRequest (query : Text) : Request where
  method := "GET".toList
  url := "http://h/login?".toList ++ query
  proto := Request.defaultProto
  remoteAddress := "192.0.2.1:80".toList
  headers := []

/-- Repeated, interleaved and escaped items, one of them of the parameter that names the user. -/
theorem login_records_eq :
    Alike [['p'], ['u']] (loginRequest "u=al&%70=s3cret&n=1&p=2".toList)
      (loginRequest "n=1&p=other&u=bob&u=carl".toList) ∧
    Builder.build { redactedParams := [['p'], ['u']] }
        (loginRequest "u=al&%70=s3cret&n=1&p=2".toList) ({ writer := () } : Observer Unit)
        ⟨⟨2024, 1, 15, 12, 0, 0, 0, some 0⟩, 0.5, 2.25⟩ =
      Builder.build { redactedParams := [['p'], ['u']] }
        (loginRequest "n=1&p=other&u=bob&u=carl".toList) ({ writer := () } : Observer Unit)
        ⟨⟨2024, 1, 15, 12, 0, 0, 0, some 0⟩, 0.5, 2.25⟩ := by
  have hSensitive : sensitive [['p'], ['u']]
      (loginRequest "u=al&%70=s3cret&n=1&p=2".toList).items =
      sensitive [['p'], ['u']] (loginRequest "n=1&p=other&u=bob&u=carl".toList).items := by
    decide +kernel
  have hAlike : Alike [['p'], ['u']] (loginRequest "u=al&%70=s3cret&n=1&p=2".toList)
      (loginRequest "n=1&p=other&u=bob&u=carl".toList) :=
    { method := by simp only [loginRequest]
      proto := by simp only [loginRequest]
      remoteAddress := by simp only [loginRequest]
      headers := by simp only [loginRequest]
      scheme := by decide +kernel
      netloc := by decide +kernel
      path := by decide +kernel
      fragment := by decide +kernel
      sensitive := sensitive_eq_iff.mp hSensitive
      nonempty := ⟨['p'], by decide +kernel⟩
      plain := by decide +kernel }
  exact ⟨hAlike,
    (record_eq_of_alike (s := { redactedParams := [['p'], ['u']] }) hAlike _ _).1⟩

end Redaction

end RequestLog

import RequestLog.Proofs.Record.Quotes

/-!
# Lines of records

The structured line of any record is one line. The common line of a record with inert host, method,
URI and protocol has the six quotes that it sets itself, and besides these only what its user and
its request id bring, the two free texts that it neither quotes nor escapes. If no header value has
a line end, the user alone can break the line.
-/

namespace RequestLog

namespace Line

open Digits

theorem isUnbroken_hexPadded (width n : Nat) : IsUnbroken (hexPadded width n) :=
  fun _ hc => isLineEnd_of_class (by decide) (by decide) (isHex_of_mem_hexPadded hc)

/-- The line ends are among the controls that are escaped. -/
theorem isUnbroken_jsonChar (c : Char) : IsUnbroken (jsonChar c) := by
  unfold jsonChar
  repeat' split
  all_goals simp_all [isLineEnd, isUnbroken_hexPadded]

theorem isUnbroken_jsonText (t : Text) : IsUnbroken (jsonText t) := by
  have hInside : IsUnbroken (t.flatMap jsonChar) := by
    intro c hc
    obtain ⟨x, -, hc⟩ := List.mem_flatMap.mp hc
    exact isUnbroken_jsonChar x c hc
  rw [jsonText, isUnbroken_append, isUnbroken_cons]
  exact ⟨⟨rfl, hInside⟩, by simp [isLineEnd]⟩

theorem isUnbroken_value (v : Value) : IsUnbroken v.json := by
  cases v with
  | text t => exact isUnbroken_jsonText t
  | number n => exact (isInert_signed n).isUnbroken
  | seconds microseconds =>
    intro c hc
    exact isLineEnd_of_class (by decide) (by decide)
      (Elapsed.layout.isNumeralChar_writeFloat _ c hc)

theorem isUnbroken_jsonObject (fields : List (Text × Value)) : IsUnbroken (jsonObject fields) := by
  have hInside : IsUnbroken
      (List.intercalate [','] (fields.map fun f => jsonText f.1 ++ ':' :: f.2.json)) := by
    intro c hc
    rcases Query.mem_intercalate hc with rfl | ⟨t, ht, hc⟩
    · decide
    · obtain ⟨f, -, rfl⟩ := List.mem_map.mp ht
      rcases List.mem_append.mp hc with hc | hc
      · exact isUnbroken_jsonText f.1 c hc
      · rcases List.mem_cons.mp hc with rfl | hc
        · decide
        · exact isUnbroken_value f.2 c hc
  rw [jsonObject, isUnbroken_append, isUnbroken_cons]
  exact ⟨⟨rfl, hInside⟩, by simp [isLineEnd]⟩

theorem isInert_sizeText (size : Nat) : IsInert (sizeText size) := by
  unfold sizeText
  split
  · exact isInert_cons.mpr ⟨by decide, isInert_nil⟩
  · exact isInert_decimal size

theorem common_eq (r : AccessRecord) : common r =
    r.host ++ ' ' :: '-' :: ' ' :: (r.user ++ ' ' :: '[' :: (r.start.common ++
      ']' :: ' ' :: '"' :: (r.method ++ ' ' :: (r.uri ++ ' ' :: (r.proto ++ '"' :: ' ' ::
        (decimal r.status ++ ' ' :: (sizeText r.size ++ ' ' :: (quoted r.referrer ++
          ' ' :: (quoted r.userAgent ++ ' ' :: (r.requestId ++
            ' ' :: signed r.elapsed)))))))))) := by
  simp [common]

end Line

theorem LogRecord.isUnbroken_json (r : LogRecord) : IsUnbroken r.json :=
  Line.isUnbroken_jsonObject r.fields

namespace AccessRecord

/-- Inert wherever a field is no free text but an address or a part of the request line. -/
structure IsPlain (r : AccessRecord) : Prop where
  host : IsInert r.host
  method : IsInert r.method
  uri : IsInert r.uri
  proto : IsInert r.proto

variable {r : AccessRecord}

theorem IsPlain.bareQuotes_common (h : r.IsPlain) :
    bareQuotes (Line.common r) = 6 + bareQuotes r.user + bareQuotes r.requestId := by
  have hSpace : isInertChar ' ' = true := by decide
  have hHyphen : isInertChar '-' = true := by decide
  have hOpening : isInertChar '[' = true := by decide
  have hClosing : isInertChar ']' = true := by decide
  rw [Line.common_eq, bareQuotes_append h.host, bareQuotes_cons hSpace, bareQuotes_cons hHyphen,
    bareQuotes_cons hSpace, bareQuotes_append_cons hSpace r.user, bareQuotes_cons hOpening,
    bareQuotes_append r.start.isInert_common, bareQuotes_cons hClosing, bareQuotes_cons hSpace,
    bareQuotes_quote, bareQuotes_append h.method, bareQuotes_cons hSpace,
    bareQuotes_append h.uri, bareQuotes_cons hSpace, bareQuotes_append h.proto, bareQuotes_quote,
    bareQuotes_cons hSpace, bareQuotes_append (Digits.isInert_decimal _), bareQuotes_cons hSpace,
    bareQuotes_append (Line.isInert_sizeText _), bareQuotes_cons hSpace,
    Line.bareQuotes_quoted_append, bareQuotes_cons hSpace, Line.bareQuotes_quoted_append,
    bareQuotes_cons hSpace, bareQuotes_append_cons hSpace r.requestId,
    bareQuotes_of_isInert (Digits.isInert_signed _)]
  omega

theorem IsPlain.isUnbroken_common_iff (h : r.IsPlain) (hReferrer : IsUnbroken r.referrer)
    (hAgent : IsUnbroken r.userAgent) (hId : IsUnbroken r.requestId) :
    IsUnbroken (Line.common r) ↔ IsUnbroken r.user := by
  have hQuote : isLineEnd '"' = false := by decide
  have hSpace : isLineEnd ' ' = false := by decide
  have hBrackets : isLineEnd '[' = false ∧ isLineEnd ']' = false := by decide
  have hHyphen : isLineEnd '-' = false := by decide
  simp only [Line.common_eq, isUnbroken_append, isUnbroken_cons, h.host.isUnbroken,
    h.method.isUnbroken, h.uri.isUnbroken, h.proto.isUnbroken, r.start.isInert_common.isUnbroken,
    (Digits.isInert_decimal _).isUnbroken, (Digits.isInert_signed _).isUnbroken,
    (Line.isInert_sizeText _).isUnbroken, Line.isUnbroken_quoted hReferrer,
    Line.isUnbroken_quoted hAgent, hId, hQuote, hSpace, hBrackets, hHyphen, and_true, true_and]

end AccessRecord

end RequestLog

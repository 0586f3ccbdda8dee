import RequestLog.Proofs.Record.Lines
import RequestLog.Proofs.Text.Splits

/-!
# Common lines are read in one way

A reader takes a common line apart from the left up to the request id: fields without spaces end at
the next space, the time at its bracket, the protocol at a quote, and an escaped text at the first
quote that no backslash escapes. What is left ends in the elapsed time, which has no space. So two
records of separable fields with one line agree in all that a line tells.
-/

namespace RequestLog

namespace Line

open Digits

/-- The first character of an escaped one tells whether a backslash has to go. -/
theorem escapeChar_append_inj {c d : Char} {rest₁ rest₂ : Text} :
    escapeChar c ++ rest₁ = escapeChar d ++ rest₂ ↔ c = d ∧ rest₁ = rest₂ := by
  constructor
  · intro h
    unfold escapeChar at h
    split at h
    · split at h
      · simpa using h
      · next hPlain =>
        obtain ⟨rfl, -⟩ := List.cons.inj h
        exact absurd (Or.inl rfl) hPlain
    · next hPlain =>
      split at h
      · obtain ⟨rfl, -⟩ := List.cons.inj h
        exact absurd (Or.inl rfl) hPlain
      · exact List.cons.inj h
  · rintro ⟨rfl, rfl⟩
    rfl

theorem escapeChar_append_ne_quote (c : Char) (rest₁ rest₂ : Text) :
    escapeChar c ++ rest₁ ≠ '"' :: rest₂ := by
  intro h
  unfold escapeChar at h
  split at h
  · exact absurd (List.cons.inj h).1 (by decide)
  · next hPlain => exact hPlain (Or.inr (List.cons.inj h).1)

theorem escape_cons (c : Char) (t : Text) : escape (c :: t) = escapeChar c ++ escape t := rfl

/-- An escaped text ends at the first quote that is not escaped. -/
theorem escape_append_quote_inj {t₁ t₂ rest₁ rest₂ : Text} :
    escape t₁ ++ '"' :: rest₁ = escape t₂ ++ '"' :: rest₂ ↔ t₁ = t₂ ∧ rest₁ = rest₂ := by
  constructor
  · intro h
    induction t₁ generalizing t₂ with
    | nil =>
      cases t₂ with
      | nil => exact ⟨rfl, (List.cons.inj h).2⟩
      | cons d more =>
        rw [escape_cons, List.append_assoc] at h
        exact absurd h.symm (escapeChar_append_ne_quote d _ _)
    | cons c t ih =>
      rw [escape_cons, List.append_assoc] at h
      cases t₂ with
      | nil => exact absurd h (escapeChar_append_ne_quote c _ _)
      | cons d more =>
        rw [escape_cons, List.append_assoc] at h
        obtain ⟨rfl, hRest⟩ := escapeChar_append_inj.mp h
        obtain ⟨rfl, hEqual⟩ := ih hRest
        exact ⟨rfl, hEqual⟩
  · rintro ⟨rfl, rfl⟩
    rfl

theorem quoted_append_inj {t₁ t₂ rest₁ rest₂ : Text} :
    quoted t₁ ++ rest₁ = quoted t₂ ++ rest₂ ↔ t₁ = t₂ ∧ rest₁ = rest₂ := by
  simp only [quoted, List.cons_append, List.append_assoc, List.nil_append, List.cons.injEq,
    true_and, escape_append_quote_inj]

/-- The hyphen of an empty body is no number. -/
theorem sizeText_inj {m n : Nat} : sizeText m = sizeText n ↔ m = n := by
  have hNotHyphen (k : Nat) : decimal k ≠ ['-'] := by
    intro h
    exact hyphen_notMem_decimal k (h ▸ List.mem_cons_self)
  constructor
  · intro h
    unfold sizeText at h
    split at h
    · split at h
      · omega
      · exact absurd h.symm (hNotHyphen n)
    · split at h
      · exact absurd h (hNotHyphen m)
      · exact decimal_inj.mp h
  · rintro rfl
    rfl

theorem space_notMem_decimal (n : Nat) : ' ' ∉ decimal n := notMem_decimal (by decide) n

theorem space_notMem_sizeText (n : Nat) : ' ' ∉ sizeText n := by
  unfold sizeText
  split
  · decide
  · exact space_notMem_decimal n

theorem space_notMem_signed (n : Int) : ' ' ∉ signed n :=
  notMem_signed (by decide) (by decide) n

theorem bracket_notMem_stamp (s : Stamp) : ']' ∉ s.common :=
  notMem_of_class s.isStampChar_common (by decide)

end Line

namespace AccessRecord

/-- No field that is written without escapes has the mark that ends it. -/
structure IsSeparable (r : AccessRecord) : Prop where
  host : ' ' ∉ r.host
  user : ' ' ∉ r.user
  method : ' ' ∉ r.method
  uri : ' ' ∉ r.uri
  proto : '"' ∉ r.proto

/-- Equal in every field, the start as far as a common line tells it. -/
structure AgreesWith (r₁ r₂ : AccessRecord) : Prop where
  host : r₁.host = r₂.host
  user : r₁.user = r₂.user
  start : r₁.start.common = r₂.start.common
  method : r₁.method = r₂.method
  uri : r₁.uri = r₂.uri
  proto : r₁.proto = r₂.proto
  status : r₁.status = r₂.status
  size : r₁.size = r₂.size
  referrer : r₁.referrer = r₂.referrer
  userAgent : r₁.userAgent = r₂.userAgent
  requestId : r₁.requestId = r₂.requestId
  elapsed : r₁.elapsed = r₂.elapsed

/-- Records of separable fields have the same common line only if they agree. -/
theorem common_eq_iff {r₁ r₂ : AccessRecord} (h₁ : r₁.IsSeparable) (h₂ : r₂.IsSeparable) :
    Line.common r₁ = Line.common r₂ ↔ r₁.AgreesWith r₂ := by
  constructor
  · intro h
    rw [Line.common_eq, Line.common_eq] at h
    obtain ⟨host, h⟩ := (append_cons_inj h₁.host h₂.host).mp h
    obtain ⟨user, h⟩ := (append_cons_inj h₁.user h₂.user).mp
      (List.cons.inj (List.cons.inj h).2).2
    obtain ⟨start, h⟩ := (append_cons_inj (Line.bracket_notMem_stamp r₁.start)
      (Line.bracket_notMem_stamp r₂.start)).mp (List.cons.inj h).2
    obtain ⟨method, h⟩ := (append_cons_inj h₁.method h₂.method).mp
      (List.cons.inj (List.cons.inj h).2).2
    obtain ⟨uri, h⟩ := (append_cons_inj h₁.uri h₂.uri).mp h
    obtain ⟨proto, h⟩ := (append_cons_inj h₁.proto h₂.proto).mp h
    obtain ⟨status, h⟩ := (append_cons_inj (Line.space_notMem_decimal r₁.status)
      (Line.space_notMem_decimal r₂.status)).mp (List.cons.inj h).2
    obtain ⟨size, h⟩ := (append_cons_inj (Line.space_notMem_sizeText r₁.size)
      (Line.space_notMem_sizeText r₂.size)).mp h
    obtain ⟨referrer, h⟩ := Line.quoted_append_inj.mp h
    obtain ⟨userAgent, h⟩ := Line.quoted_append_inj.mp (List.cons.inj h).2
    -- The request id may have spaces, but behind the last one stands the elapsed time.
    obtain ⟨requestId, elapsed⟩ := (append_cons_inj_last (Line.space_notMem_signed r₁.elapsed)
      (Line.space_notMem_signed r₂.elapsed)).mp (List.cons.inj h).2
    exact {
      host := host
      user := user
      start := start
      method := method
      uri := uri
      proto := proto
      status := Digits.decimal_inj.mp status
      size := Line.sizeText_inj.mp size
      referrer := referrer
      userAgent := userAgent
      requestId := requestId
      elapsed := Digits.signed_inj.mp elapsed }
  · intro h
    rw [Line.common, Line.common, h.host, h.user, h.start, h.method, h.uri, h.proto, h.status,
      h.size, h.referrer, h.userAgent, h.requestId, h.elapsed]

/-- A record of a request whose free texts are given. -/
def browsed (referrer userAgent requestId : Text) (microsecond : Nat) : AccessRecord where
  host := "192.0.2.1".toList
  user := "a\"b".toList
  start := ⟨2024, 1, 15, 12, 0, 0, microsecond, some 0⟩
  method := "GET".toList
  uri := "/a?b=[c]".toList
  proto := "HTTP/1.1".toList
  status := 200
  size := 0
  referrer := referrer
  userAgent := userAgent
  requestId := requestId
  elapsed := -3
  status_range := by decide

theorem isSeparable_browsed (referrer userAgent requestId : Text) (microsecond : Nat) :
    (browsed referrer userAgent requestId microsecond).IsSeparable where
  host := (by decide : ' ' ∉ "192.0.2.1".toList)
  user := (by decide : ' ' ∉ "a\"b".toList)
  method := (by decide : ' ' ∉ "GET".toList)
  uri := (by decide : ' ' ∉ "/a?b=[c]".toList)
  proto := (by decide : '"' ∉ "HTTP/1.1".toList)

/-- Texts that would read alike if quotes and backslashes were not escaped do not; microseconds of
the start are not told. -/
theorem browsed_told_apart :
    (browsed "x\" \"y".toList "z\\".toList "1 2".toList 0).IsSeparable ∧
    (browsed "x".toList "y\" \"z\\".toList "1 2".toList 7).IsSeparable ∧
    Line.common (browsed "x\" \"y".toList "z\\".toList "1 2".toList 0) ≠
      Line.common (browsed "x".toList "y\" \"z\\".toList "1 2".toList 7) ∧
    (browsed "x\\".toList [] "1 2".toList 0).AgreesWith
      (browsed "x\\".toList [] "1 2".toList 7) := by
  refine ⟨isSeparable_browsed _ _ _ _, isSeparable_browsed _ _ _ _, ?_, ?_⟩
  · intro h
    have hReferrer := ((common_eq_iff (isSeparable_browsed _ _ _ _)
      (isSeparable_browsed _ _ _ _)).mp h).referrer
    exact absurd hReferrer (by decide)
  · apply (common_eq_iff (isSeparable_browsed _ _ _ _) (isSeparable_browsed _ _ _ _)).mp
    rfl

end AccessRecord

end RequestLog

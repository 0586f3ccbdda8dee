import RequestLog.Proofs.Query.Reread
import RequestLog.Proofs.Time.Stamp
import RequestLog.Record.Line

/-!
# Quotes and line ends

A double quote is bare when no backslash escapes it. Behind a text an inert character ends whatever
escape the text has begun, so the bare quotes of a common line are those of its fields and the six
that it sets itself. Fields that are escaped add none, and the structured line of a record has no
line end, whatever the record is.
-/

namespace RequestLog

def isLineEnd (c : Char) : Bool := c == '\n' || c == '\r'

def IsUnbroken (t : Text) : Prop := ∀ c ∈ t, isLineEnd c = false

/-- A character that ends no line and is neither a quote nor an escape. -/
def isInertChar (c : Char) : Bool := !isLineEnd c && c != '"' && c != '\\'

def IsInert (t : Text) : Prop := ∀ c ∈ t, isInertChar c = true

theorem isInertChar_iff {c : Char} :
    isInertChar c = true ↔ isLineEnd c = false ∧ c ≠ '"' ∧ c ≠ '\\' := by
  simp [isInertChar, and_assoc]

theorem isLineEnd_eq_false_iff {c : Char} : isLineEnd c = false ↔ c ≠ '\n' ∧ c ≠ '\r' := by
  simp [isLineEnd]

theorem isUnbroken_iff {t : Text} : IsUnbroken t ↔ '\n' ∉ t ∧ '\r' ∉ t := by
  constructor
  · intro h
    exact ⟨fun hMem => absurd (h _ hMem) (by decide), fun hMem => absurd (h _ hMem) (by decide)⟩
  · rintro ⟨hLine, hReturn⟩ c hc
    refine isLineEnd_eq_false_iff.mpr ⟨?_, ?_⟩
    · rintro rfl
      exact hLine hc
    · rintro rfl
      exact hReturn hc

theorem isLineEnd_of_class {P : Char → Bool} (hLine : P '\n' = false) (hReturn : P '\r' = false)
    {c : Char} (h : P c = true) : isLineEnd c = false :=
  isLineEnd_eq_false_iff.mpr ⟨ne_of_class h hLine, ne_of_class h hReturn⟩

theorem isInertChar_of_class {P : Char → Bool} (hLine : P '\n' = false) (hReturn : P '\r' = false)
    (hQuote : P '"' = false) (hEscape : P '\\' = false) {c : Char} (h : P c = true) :
    isInertChar c = true :=
  isInertChar_iff.mpr
    ⟨isLineEnd_of_class hLine hReturn h, ne_of_class h hQuote, ne_of_class h hEscape⟩

theorem isInert_of_class {P : Char → Bool} (hLine : P '\n' = false) (hReturn : P '\r' = false)
    (hQuote : P '"' = false) (hEscape : P '\\' = false) {t : Text} (h : ∀ c ∈ t, P c = true) :
    IsInert t :=
  fun c hc => isInertChar_of_class hLine hReturn hQuote hEscape (h c hc)

theorem isInertChar_of_isDigit {c : Char} (h : c.isDigit = true) : isInertChar c = true :=
  isInertChar_of_class (P := Char.isDigit) rfl rfl rfl rfl h

theorem IsInert.isUnbroken {t : Text} (h : IsInert t) : IsUnbroken t :=
  fun c hc => (isInertChar_iff.mp (h c hc)).1

@[simp] theorem isUnbroken_nil : IsUnbroken [] := List.forall_mem_nil _

@[simp] theorem isUnbroken_cons {c : Char} {t : Text} :
    IsUnbroken (c :: t) ↔ isLineEnd c = false ∧ IsUnbroken t := List.forall_mem_cons

@[simp] theorem isUnbroken_append {a b : Text} :
    IsUnbroken (a ++ b) ↔ IsUnbroken a ∧ IsUnbroken b := List.forall_mem_append

@[simp] theorem isInert_nil : IsInert [] := List.forall_mem_nil _

@[simp] theorem isInert_cons {c : Char} {t : Text} :
    IsInert (c :: t) ↔ isInertChar c = true ∧ IsInert t := List.forall_mem_cons

@[simp] theorem isInert_append {a b : Text} : IsInert (a ++ b) ↔ IsInert a ∧ IsInert b :=
  List.forall_mem_append

/-- Double quotes that no backslash escapes, in a text whose first character is escaped or not. -/
def bareQuotesFrom : Bool → Text → Nat
  | _, [] => 0
  | true, _ :: rest => bareQuotesFrom false rest
  | false, c :: rest =>
    if c = '\\' then bareQuotesFrom true rest
    else if c = '"' then bareQuotesFrom false rest + 1
    else bareQuotesFrom false rest

def bareQuotes (t : Text) : Nat := bareQuotesFrom false t

section

variable {c : Char}

theorem bareQuotes_cons (h : isInertChar c = true) (rest : Text) :
    bareQuotes (c :: rest) = bareQuotes rest := by
  obtain ⟨-, hQuote, hEscape⟩ := isInertChar_iff.mp h
  rw [bareQuotes, bareQuotesFrom, if_neg hEscape, if_neg hQuote, bareQuotes]

theorem bareQuotes_quote (rest : Text) : bareQuotes ('"' :: rest) = bareQuotes rest + 1 := rfl

theorem bareQuotesFrom_append_cons (h : isInertChar c = true) (escaped : Bool) (t rest : Text) :
    bareQuotesFrom escaped (t ++ c :: rest) = bareQuotesFrom escaped t + bareQuotes rest := by
  induction t generalizing escaped with
  | nil =>
    rw [List.nil_append]
    -- An escape that the text leaves open takes the inert character, which counts for nothing.
    cases escaped with
    | true => exact (Nat.zero_add _).symm
    | false => exact (bareQuotes_cons h rest).trans (Nat.zero_add _).symm
  | cons first more ih =>
    rw [List.cons_append]
    cases escaped with
    | true => exact ih false
    | false =>
      rw [bareQuotesFrom, bareQuotesFrom]
      split
      · exact ih true
      · split
        · rw [ih false, Nat.add_right_comm]
        · exact ih false

/-- An inert character keeps apart what stands on either side of it. -/
theorem bareQuotes_append_cons (h : isInertChar c = true) (t rest : Text) :
    bareQuotes (t ++ c :: rest) = bareQuotes t + bareQuotes rest :=
  bareQuotesFrom_append_cons h false t rest

theorem bareQuotes_append {t : Text} (h : IsInert t) (rest : Text) :
    bareQuotes (t ++ rest) = bareQuotes rest := by
  induction t with
  | nil => rfl
  | cons first more ih =>
    obtain ⟨hFirst, hMore⟩ := List.forall_mem_cons.mp h
    rw [List.cons_append, bareQuotes_cons hFirst, ih hMore]

theorem bareQuotes_of_isInert {t : Text} (h : IsInert t) : bareQuotes t = 0 := by
  have hNil := bareQuotes_append h []
  rwa [List.append_nil] at hNil

end

namespace Line

theorem bareQuotes_escape_append (t rest : Text) :
    bareQuotes (escape t ++ rest) = bareQuotes rest := by
  induction t with
  | nil => rfl
  | cons c more ih =>
    change bareQuotes (escapeChar c ++ escape more ++ rest) = _
    rw [List.append_assoc, ← ih, escapeChar]
    split
    · rfl
    · next h =>
      obtain ⟨hEscape, hQuote⟩ := not_or.mp h
      change bareQuotesFrom false (c :: (escape more ++ rest)) = _
      rw [bareQuotesFrom, if_neg hEscape, if_neg hQuote, bareQuotes]

/-- A quoted text has the two quotes around it and no others. -/
theorem bareQuotes_quoted_append (t rest : Text) :
    bareQuotes (quoted t ++ rest) = bareQuotes rest + 2 := by
  rw [quoted, List.cons_append, List.cons_append, bareQuotes_quote, List.append_assoc,
    bareQuotes_escape_append]
  rfl

theorem isUnbroken_quoted {t : Text} (h : IsUnbroken t) : IsUnbroken (quoted t) := by
  have hEscape : IsUnbroken (escape t) := by
    intro c hc
    obtain ⟨x, hx, hc⟩ := List.mem_flatMap.mp hc
    unfold escapeChar at hc
    split at hc
    · rcases List.mem_cons.mp hc with rfl | hc
      · rfl
      · rw [List.mem_singleton.mp hc]
        exact h x hx
    · rw [List.mem_singleton.mp hc]
      exact h x hx
  rw [quoted, isUnbroken_append, isUnbroken_cons]
  exact ⟨⟨rfl, hEscape⟩, by simp [isLineEnd]⟩

end Line

namespace Digits

@[simp] theorem isInert_decimal (n : Nat) : IsInert (decimal n) :=
  fun _ hc => isInertChar_of_isDigit (isDigit_of_mem_decimal hc)

@[simp] theorem isInert_signed (n : Int) : IsInert (signed n) := by
  intro c hc
  rcases mem_signed hc with rfl | hDigit
  · decide
  · exact isInertChar_of_isDigit hDigit

end Digits

theorem Stamp.isInert_common (s : Stamp) : IsInert s.common :=
  isInert_of_class (by decide) (by decide) (by decide) (by decide) s.isStampChar_common

end RequestLog

import RequestLog.Proofs.Text.Ascii
import RequestLog.Proofs.Text.Numerals
import RequestLog.Time.Stamp

/-!
# Characters of time stamps

A stamp as the common line has it consists of letters and digits, and of the few marks between them
and before its zone.
-/

namespace RequestLog.Stamp

open Digits

def isStampChar (c : Char) : Bool := c.isAlphanum || "/: +-".toList.contains c

theorem isStampChar_of_isDigit {c : Char} (h : c.isDigit = true) : isStampChar c = true := by
  rw [isStampChar, Char.isAlphanum, h, Bool.or_true, Bool.true_or]

theorem isStampChar_decimalPadded (width n : Nat) :
    ∀ c ∈ decimalPadded width n, isStampChar c = true :=
  fun _ hc => isStampChar_of_isDigit (isDigit_of_mem_decimalPadded hc)

theorem isStampChar_monthName (month : Nat) : ∀ c ∈ monthName month, isStampChar c = true := by
  have hNames : ∀ n < 13, (monthName n).all isStampChar = true := by decide
  by_cases h : month < 13
  · exact List.all_eq_true.mp (hNames month h)
  · have hBeyond : monthName month = [] := by
      rw [monthName, List.getD_eq_getElem?_getD, List.getElem?_eq_none]
      · rfl
      · simp only [List.length_cons, List.length_nil]
        omega
    rw [hBeyond]
    exact List.forall_mem_nil _

theorem isStampChar_commonOffset (offset : Option Int) :
    ∀ c ∈ commonOffset offset, isStampChar c = true := by
  cases offset with
  | none => exact List.forall_mem_nil _
  | some offset =>
    have hSign : isStampChar (offsetSign offset) = true := by
      unfold offsetSign
      split <;> decide
    intro c hc
    simp only [commonOffset, List.cons_append, List.mem_cons, List.mem_append] at hc
    rcases hc with rfl | (hc | hc) | hc
    · exact hSign
    · exact isStampChar_decimalPadded _ _ c hc
    · exact isStampChar_decimalPadded _ _ c hc
    · split at hc
      · cases hc
      · exact isStampChar_decimalPadded _ _ c hc

theorem isStampChar_clockTime (s : Stamp) : ∀ c ∈ s.clockTime, isStampChar c = true := by
  intro c hc
  simp only [clockTime, clockText, List.mem_append, List.mem_cons, or_assoc] at hc
  rcases hc with hc | rfl | hc | rfl | hc
  · exact isStampChar_decimalPadded _ _ c hc
  · decide
  · exact isStampChar_decimalPadded _ _ c hc
  · decide
  · exact isStampChar_decimalPadded _ _ c hc

theorem isStampChar_common (s : Stamp) : ∀ c ∈ s.common, isStampChar c = true := by
  intro c hc
  simp only [common, List.mem_append, List.mem_cons, or_assoc] at hc
  rcases hc with hc | rfl | hc | rfl | hc | rfl | hc | rfl | hc
  · exact isStampChar_decimalPadded _ _ c hc
  · decide
  · exact isStampChar_monthName _ c hc
  · decide
  · exact isStampChar_of_isDigit (isDigit_of_mem_decimal hc)
  · decide
  · exact s.isStampChar_clockTime c hc
  · decide
  · exact isStampChar_commonOffset _ c hc

end RequestLog.Stamp

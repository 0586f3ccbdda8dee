import RequestLog.Number.Shortest

/-!
# Characters of numbers

A number that is written in decimal consists of digits, behind a minus sign if it is negative, and
padding it adds digits only. A double has a point or an exponent besides. No two whole numbers are
written alike.
-/

namespace RequestLog.Digits

variable {c : Char}

theorem isDigit_of_mem_decimal {n : Nat} (h : c ∈ decimal n) : c.isDigit = true :=
  Nat.isDigit_of_mem_toDigits (by decide) (by decide) h

theorem isDigit_of_mem_decimalPadded {width n : Nat} (h : c ∈ decimalPadded width n) :
    c.isDigit = true := by
  rcases List.mem_append.mp h with h | h
  · rw [List.eq_of_mem_replicate h]
    rfl
  · exact isDigit_of_mem_decimal h

theorem mem_signed {n : Int} (h : c ∈ signed n) : c = '-' ∨ c.isDigit = true := by
  unfold signed at h
  split at h
  · rcases List.mem_cons.mp h with rfl | h
    · exact Or.inl rfl
    · exact Or.inr (isDigit_of_mem_decimal h)
  · exact Or.inr (isDigit_of_mem_decimal h)

theorem decimal_inj {m n : Nat} : decimal m = decimal n ↔ m = n := by
  constructor
  · intro h
    have hRead := congrArg (Nat.ofDigitChars 10 · 0) h
    simpa only [decimal, Nat.ofDigitChars_ten_toDigits] using hRead
  · rintro rfl
    rfl

theorem notMem_decimal (hDigit : c.isDigit = false) (n : Nat) : c ∉ decimal n := by
  intro h
  exact absurd (hDigit.symm.trans (isDigit_of_mem_decimal h)) (by decide)

theorem notMem_signed (hSign : c ≠ '-') (hDigit : c.isDigit = false) (n : Int) : c ∉ signed n := by
  intro h
  rcases mem_signed h with hMinus | hFound
  · exact hSign hMinus
  · exact absurd (hDigit.symm.trans hFound) (by decide)

theorem hyphen_notMem_decimal (n : Nat) : '-' ∉ decimal n := notMem_decimal (by decide) n

theorem signed_inj {m n : Int} : signed m = signed n ↔ m = n := by
  constructor
  · intro h
    by_cases hm : m < 0
    · by_cases hn : n < 0
      · rw [signed, signed, if_pos hm, if_pos hn] at h
        have hSize := decimal_inj.mp (List.cons.inj h).2
        omega
      · rw [signed, signed, if_pos hm, if_neg hn] at h
        exact absurd (h ▸ List.mem_cons_self) (hyphen_notMem_decimal n.natAbs)
    · by_cases hn : n < 0
      · rw [signed, signed, if_neg hm, if_pos hn] at h
        exact absurd (h ▸ List.mem_cons_self) (hyphen_notMem_decimal m.natAbs)
      · rw [signed, signed, if_neg hm, if_neg hn] at h
        have hSize := decimal_inj.mp h
        omega
  · rintro rfl
    rfl

theorem isHex_lowerHex (n : Nat) (h : n < 16) : isHex (lowerHex n) = true := by
  rw [isHex, hexValue?_lowerHex n h]
  rfl

theorem isHex_of_mem_hexPadded {width n : Nat} (h : c ∈ hexPadded width n) : isHex c = true := by
  obtain ⟨i, -, rfl⟩ := List.mem_map.mp h
  exact isHex_lowerHex _ (Nat.mod_lt _ (by decide))

end RequestLog.Digits

namespace RequestLog.Shortest

open Digits

def isNumeralChar (c : Char) : Bool := c.isDigit || "-.e".toList.contains c

theorem isNumeralChar_of_isDigit {c : Char} (h : c.isDigit = true) : isNumeralChar c = true := by
  rw [isNumeralChar, h, Bool.true_or]

theorem isNumeralChar_of_mem_signed {n : Int} {c : Char} (h : c ∈ signed n) :
    isNumeralChar c = true := by
  rcases mem_signed h with rfl | hDigit
  · decide
  · exact isNumeralChar_of_isDigit hDigit

theorem Layout.isNumeralChar_write (layout : Layout) (d : Decimal) :
    ∀ c ∈ layout.write d, isNumeralChar c = true := by
  have hDigits : ∀ c ∈ decimal d.digits, isNumeralChar c = true :=
    fun c hc => isNumeralChar_of_isDigit (isDigit_of_mem_decimal hc)
  have hZeros (n : Nat) : ∀ c ∈ List.replicate n '0', isNumeralChar c = true := by
    intro c hc
    rw [List.eq_of_mem_replicate hc]
    decide
  have hMark (n : Int) : ∀ c ∈ 'e' :: signed n, isNumeralChar c = true :=
    List.forall_mem_cons.mpr ⟨by decide, fun c hc => isNumeralChar_of_mem_signed hc⟩
  unfold write
  simp only
  split
  · split
    · simp only [List.forall_mem_append]
      exact ⟨⟨hDigits, hZeros _⟩, List.all_eq_true.mp (by decide)⟩
    · split
      · simp only [List.forall_mem_append, List.forall_mem_cons]
        exact ⟨fun c hc => hDigits c (List.mem_of_mem_take hc), by decide,
          fun c hc => hDigits c (List.mem_of_mem_drop hc)⟩
      · simp only [List.cons_append, List.forall_mem_cons, List.forall_mem_append]
        exact ⟨by decide, by decide, hZeros _, hDigits⟩
  · split
    · next one hOne =>
      rw [hOne] at hDigits
      exact List.forall_mem_cons.mpr ⟨hDigits one List.mem_cons_self, hMark _⟩
    · next first rest _ hMore =>
      rw [hMore] at hDigits
      obtain ⟨hFirst, hRest⟩ := List.forall_mem_cons.mp hDigits
      simp only [List.cons_append, List.forall_mem_cons, List.forall_mem_append]
      exact ⟨hFirst, by decide, hRest, List.forall_mem_cons.mp (hMark _)⟩
    · exact hMark _

theorem Layout.isNumeralChar_writeFloat (layout : Layout) (x : Float) :
    ∀ c ∈ layout.writeFloat x, isNumeralChar c = true := by
  unfold writeFloat
  split
  · exact List.forall_mem_nil _
  · split
    · exact layout.isNumeralChar_write _
    · split
      · exact List.forall_mem_cons.mpr ⟨by decide, layout.isNumeralChar_write _⟩
      · exact layout.isNumeralChar_write _

end RequestLog.Shortest

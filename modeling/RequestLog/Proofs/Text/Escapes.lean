import RequestLog.Proofs.Text.Ascii
import RequestLog.Text.Percent

/-!
# Reading escapes back

An octet is written as a kept character or as an escape; reading gives the octet either way, as long
as the percent sign is not kept. What is written consists of kept characters, percent signs and
upper-case digits, so whatever holds of these holds of an escaped text.
-/

namespace RequestLog.Percent

open Digits

theorem toNat_upperHex : ∀ n < 16, (upperHex n).toNat < 128 := by decide

theorem isAscii_of_isUnreserved {c : Char} (h : isUnreserved c = true) : c.toNat < 128 := by
  simp only [isUnreserved, Bool.or_eq_true, beq_iff_eq] at h
  rcases h with (((h | rfl) | rfl) | rfl) | rfl
  · have := toNat_of_isAlphanum h
    omega
  all_goals decide

theorem pair?_escapeOctet (b : UInt8) (rest : Octets) :
    pair? (UInt8.ofNat (upperHex (b.toNat / 16)).toNat ::
      UInt8.ofNat (upperHex (b.toNat % 16)).toNat :: rest) = some b := by
  have hOctet := b.toNat_lt
  have hHigh : b.toNat / 16 < 16 := by omega
  have hLow : b.toNat % 16 < 16 := by omega
  have hHighCode := toNat_upperHex _ hHigh
  have hLowCode := toNat_upperHex _ hLow
  have hCode {n : Nat} (h : n < 128) : (UInt8.ofNat n).toNat = n := by
    simp only [UInt8.toNat_ofNat']
    omega
  simp only [pair?, hCode hHighCode, hCode hLowCode, hexValue?_upperHex _ hHigh,
    hexValue?_upperHex _ hLow]
  rw [show b.toNat / 16 * 16 + b.toNat % 16 = b.toNat by omega, UInt8.ofNat_toNat]

theorem unescape_escapeOctet_append (b : UInt8) (rest : Octets) :
    unescape (asciiOctets (escapeOctet b) ++ rest) = b :: unescape rest :=
  unescape_escape_cons (pair?_escapeOctet b rest)

variable {keep : Char → Bool}

theorem unescape_escapeBy_append (hPercent : keep '%' = false) (b : UInt8) (rest : Octets) :
    unescape (asciiOctets (escapeBy keep b) ++ rest) = b :: unescape rest := by
  unfold escapeBy
  split
  · next hKeep =>
    have hOctet : b ≠ 37 := by
      rintro rfl
      exact absurd (hKeep.symm.trans hPercent) (by decide)
    change unescape (UInt8.ofNat (Char.ofUInt8 b).toNat :: rest) = _
    rw [Latin1.ofNat_toNat_ofUInt8, unescape_cons_of_ne hOctet]
  · exact unescape_escapeOctet_append b rest

/-- A property of characters that the percent sign and the digits of an escape have. -/
theorem forall_mem_escapeOctet {P : Char → Prop} (hPercent : P '%')
    (hDigit : ∀ n < 16, P (upperHex n)) (b : UInt8) : ∀ c ∈ escapeOctet b, P c := by
  have hOctet := b.toNat_lt
  intro c hc
  simp only [escapeOctet, List.mem_cons, List.not_mem_nil, or_false] at hc
  rcases hc with rfl | rfl | rfl
  · exact hPercent
  · exact hDigit _ (by omega)
  · exact hDigit _ (by omega)

theorem forall_mem_escapeBy {P : Char → Prop} (hPercent : P '%')
    (hDigit : ∀ n < 16, P (upperHex n)) (hKeep : ∀ c, keep c = true → P c) (b : UInt8) :
    ∀ c ∈ escapeBy keep b, P c := by
  unfold escapeBy
  split
  · next h =>
    intro c hc
    rw [List.mem_singleton.mp hc]
    exact hKeep _ h
  · exact forall_mem_escapeOctet hPercent hDigit b

theorem forall_mem_escape {P : Char → Prop} (hPercent : P '%')
    (hDigit : ∀ n < 16, P (upperHex n)) {safe : Text}
    (hUnreserved : ∀ c, isUnreserved c = true → P c) (hSafe : ∀ c ∈ safe, P c) (octets : Octets) :
    ∀ c ∈ escape safe octets, P c := by
  intro c hc
  obtain ⟨b, -, hb⟩ := List.mem_flatMap.mp hc
  refine forall_mem_escapeBy hPercent hDigit ?_ b c hb
  intro kept hKept
  rcases Bool.or_eq_true _ _ ▸ hKept with h | h
  · exact hUnreserved kept h
  · exact hSafe kept (List.contains_iff_mem.mp h)

variable {safe : Text}

theorem isAscii_escape (hSafe : IsAscii safe) (octets : Octets) : IsAscii (escape safe octets) :=
  forall_mem_escape (by decide) toNat_upperHex (fun _ => isAscii_of_isUnreserved) hSafe octets

/-- A text of kept characters is not changed. -/
theorem escape_asciiOctets {t : Text} (hText : IsAscii t)
    (hKeep : ∀ c ∈ t, (isUnreserved c || safe.contains c) = true) :
    escape safe (asciiOctets t) = t := by
  induction t with
  | nil => rfl
  | cons c rest ih =>
    obtain ⟨hAscii, hAsciiRest⟩ := List.forall_mem_cons.mp hText
    obtain ⟨hFirst, hRest⟩ := List.forall_mem_cons.mp hKeep
    have hChar : Char.ofUInt8 (UInt8.ofNat c.toNat) = c :=
      Latin1.ofUInt8_ofNat_toNat (by omega)
    change escapeBy _ (UInt8.ofNat c.toNat) ++ escape safe (asciiOctets rest) = c :: rest
    rw [ih hAsciiRest hRest, escapeBy, hChar, if_pos hFirst]
    rfl

section Heads

variable {safe : Text} {octets : Octets}

end Heads

end RequestLog.Percent

import RequestLog.Proofs.Text.Escapes

/-!
# Escaping more of a text

A text can be written anew with some of its octets escaped. As long as neither percent signs nor
hexadecimal digits are among these, no escape is made and none is broken up: the new text is read as
the old one was, stray percent signs and escapes that are cut short included.
-/

namespace RequestLog.Percent

open Digits

/-- The second list is the first one with some of its octets escaped, but no percent sign and no
digit of an escape. -/
inductive Respelled : Octets → Octets → Prop
  | nil : Respelled [] []
  | kept (b : UInt8) {octets written : Octets} (h : Respelled octets written) :
      Respelled (b :: octets) (b :: written)
  | escaped {b : UInt8} (hPercent : b ≠ 37) (hDigit : hexValue? b.toNat = none)
      {octets written : Octets} (h : Respelled octets written) :
      Respelled (b :: octets) (asciiOctets (escapeOctet b) ++ written)

theorem pair?_eq_none {a : UInt8} (h : hexValue? a.toNat = none) (rest : Octets) :
    pair? (a :: rest) = none := by
  cases rest with
  | nil => rfl
  | cons b more => simp only [pair?, h]

theorem pair?_eq_none_of_second {b : UInt8} (h : hexValue? b.toNat = none) (a : UInt8)
    (rest : Octets) : pair? (a :: b :: rest) = none := by
  simp only [pair?, h]
  split
  · next hSecond => cases hSecond
  · rfl

theorem unescape_stray {rest : Octets} (h : pair? rest = none) :
    unescape (37 :: rest) = 37 :: unescape rest := by
  simp [unescape, unescapeFrom, h]

namespace Respelled

variable {octets written : Octets}

/-- An escape begins where one began, and is the same. -/
theorem pair?_eq (h : Respelled octets written) : pair? written = pair? octets := by
  cases h with
  | nil => rfl
  | escaped hPercent hDigit hRest =>
    rw [pair?_eq_none hDigit]
    exact pair?_eq_none (by decide) _
  | kept a hRest =>
    cases hRest with
    | nil => rfl
    | kept b hMore => rfl
    | escaped hPercent hDigit hMore =>
      rw [pair?_eq_none_of_second hDigit]
      exact pair?_eq_none_of_second (by decide) a _

theorem of_pair? (h : Respelled octets written) {octet : UInt8} (hPair : pair? octets = some octet) :
    ∃ a b rest more, octets = a :: b :: rest ∧ written = a :: b :: more ∧ Respelled rest more := by
  cases h with
  | nil => cases hPair
  | escaped hPercent hDigit hRest =>
    rw [pair?_eq_none hDigit] at hPair
    cases hPair
  | kept a hRest =>
    cases hRest with
    | nil => cases hPair
    | kept b hMore => exact ⟨a, b, _, _, rfl, rfl, hMore⟩
    | escaped hPercent hDigit hMore =>
      rw [pair?_eq_none_of_second hDigit] at hPair
      cases hPair

theorem unescape_eq (h : Respelled octets written) : unescape written = unescape octets := by
  -- an escape takes two more octets with it, so the induction is on the length
  induction hLength : octets.length using Nat.strongRecOn generalizing octets written with
  | ind length ih =>
    cases h with
    | nil => rfl
    | escaped hPercent hDigit hRest =>
      rw [List.length_cons] at hLength
      rw [unescape_escapeOctet_append, unescape_cons_of_ne hPercent, ih _ (by omega) hRest rfl]
    | @kept b octets written hRest =>
      rw [List.length_cons] at hLength
      by_cases hPercent : b = 37
      · subst hPercent
        cases hPair : pair? octets with
        | none =>
          rw [unescape_stray hPair, unescape_stray (hRest.pair?_eq.trans hPair),
            ih _ (by omega) hRest rfl]
        | some octet =>
          have hWritten := hRest.pair?_eq.trans hPair
          obtain ⟨a, c, rest, more, rfl, rfl, hMore⟩ := hRest.of_pair? hPair
          simp only [List.length_cons] at hLength
          rw [unescape_escape_cons hPair, unescape_escape_cons hWritten,
            ih _ (by omega) hMore rfl]
      · rw [unescape_cons_of_ne hPercent, unescape_cons_of_ne hPercent, ih _ (by omega) hRest rfl]

end Respelled

/-- Percent signs and hexadecimal digits are kept. -/
structure KeepsEscapes (keep : Char → Bool) : Prop where
  percent : keep '%' = true
  digit : ∀ c, isHex c = true → keep c = true

variable {keep : Char → Bool}

theorem KeepsEscapes.of_not_kept (h : KeepsEscapes keep) {b : UInt8}
    (hKeep : keep (Char.ofUInt8 b) = false) : b ≠ 37 ∧ hexValue? b.toNat = none := by
  constructor
  · rintro rfl
    exact absurd (h.percent.symm.trans hKeep) (by decide)
  · rw [← Option.not_isSome_iff_eq_none]
    intro hHex
    have hDigit : isHex (Char.ofUInt8 b) = true := by rwa [isHex, Latin1.toNat_ofUInt8]
    exact absurd ((h.digit _ hDigit).symm.trans hKeep) (by decide)

theorem escapeBy_cases (keep : Char → Bool) (b : UInt8) :
    asciiOctets (escapeBy keep b) = [b] ∨
      keep (Char.ofUInt8 b) = false ∧ escapeBy keep b = escapeOctet b := by
  unfold escapeBy
  split
  · left
    change [UInt8.ofNat (Char.ofUInt8 b).toNat] = [b]
    rw [Latin1.ofNat_toNat_ofUInt8]
  · next hKeep => exact Or.inr ⟨Bool.eq_false_iff.mpr hKeep, rfl⟩

theorem asciiOctets_escapeBy {b : UInt8} (h : keep (Char.ofUInt8 b) = true) :
    asciiOctets (escapeBy keep b) = [b] := by
  rcases escapeBy_cases keep b with hSame | ⟨hKeep, -⟩
  · exact hSame
  · exact absurd (h.symm.trans hKeep) (by decide)

theorem notMem_escapeOctet {mark : UInt8} (hPercent : mark ≠ 37)
    (hDigit : hexValue? mark.toNat = none) (b : UInt8) : mark ∉ asciiOctets (escapeOctet b) := by
  intro hMem
  obtain ⟨c, hc, rfl⟩ := List.mem_map.mp hMem
  have hEither : c = '%' ∨ hexValue? (UInt8.ofNat c.toNat).toNat ≠ none :=
    forall_mem_escapeOctet (P := fun c => c = '%' ∨ hexValue? (UInt8.ofNat c.toNat).toNat ≠ none)
      (Or.inl rfl) (by decide) b c hc
  rcases hEither with rfl | hHex
  · exact hPercent rfl
  · exact hHex hDigit

/-- A mark comes from itself only, unless it is a percent sign or a digit. -/
theorem notMem_escapeBy {mark a : UInt8} (hPercent : mark ≠ 37)
    (hDigit : hexValue? mark.toNat = none) (h : a ≠ mark) :
    mark ∉ asciiOctets (escapeBy keep a) := by
  rcases escapeBy_cases keep a with hSame | ⟨-, hEscaped⟩
  · rw [hSame, List.mem_singleton]
    exact Ne.symm h
  · rw [hEscaped]
    exact notMem_escapeOctet hPercent hDigit a

/-- The octets of the text that a list of octets is escaped to. -/
def escapedOctets (keep : Char → Bool) (octets : Octets) : Octets :=
  octets.flatMap fun b => asciiOctets (escapeBy keep b)

theorem escapedOctets_eq (keep : Char → Bool) (octets : Octets) :
    escapedOctets keep octets = asciiOctets (octets.flatMap (escapeBy keep)) :=
  List.map_flatMap.symm

theorem isUnreserved_of_isHex {c : Char} (h : isHex c = true) : isUnreserved c = true :=
  of_isHex (P := fun c => isUnreserved c = true) (by decide) h

variable {safe : Text}

theorem encode_escape (hSafe : IsAscii safe) (octets : Octets) : Utf8.encode (escape safe octets) =
    escapedOctets (fun c => isUnreserved c || safe.contains c) octets := by
  rw [encode_of_isAscii (isAscii_escape hSafe octets), escapedOctets_eq]
  rfl

theorem keepsEscapes_of_mem (h : '%' ∈ safe) :
    KeepsEscapes fun c => isUnreserved c || safe.contains c where
  percent := by rw [List.contains_iff_mem.mpr h, Bool.or_true]
  digit c hc := by rw [isUnreserved_of_isHex hc, Bool.true_or]

end RequestLog.Percent

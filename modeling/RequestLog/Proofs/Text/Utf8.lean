import RequestLog.Proofs.Text.Base64
import RequestLog.Text.Utf8

/-!
# What decodes strictly

A scan without marks begins with the octets of a character and goes on behind them. So the octets
that the strict decoder accepts are those of the text that it gives: decoding strictly and encoding
are inverse to each other.
-/

namespace RequestLog.Utf8

open Base64 (ofNat_eq)

/-- No ill-formed sequence is found. -/
def IsClean (s : State) (octets : Octets) : Prop := ∀ mark ∈ scan s octets, mark.isSome = true

theorem step_outside {left value low high n : Nat} (h : ¬(low ≤ n ∧ n ≤ high)) :
    step (.pending left value low high) n = (none :: (begin n).1, (begin n).2) := if_neg h

theorem toNat_ofNat {n : Nat} (h : n < 0xD800 ∨ 0xDFFF < n ∧ n < 0x110000) :
    (Char.ofNat n).toNat = n := by
  rw [Char.ofNat, dif_pos h]
  rfl

theorem encodeChar_of_one {b : UInt8} (h : b.toNat < 0x80) :
    encodeChar (Char.ofNat b.toNat) = [b] := by
  have hCode : (Char.ofNat b.toNat).toNat = b.toNat := toNat_ofNat (by omega)
  rw [encodeChar, hCode, if_pos h, UInt8.ofNat_toNat]

theorem encodeChar_of_two {b c : UInt8} (hb : 0xC2 ≤ b.toNat ∧ b.toNat < 0xE0)
    (hc : 0x80 ≤ c.toNat ∧ c.toNat ≤ 0xBF) :
    encodeChar (Char.ofNat (b.toNat % 32 * 64 + c.toNat % 64)) = [b, c] := by
  have hCode := toNat_ofNat (n := b.toNat % 32 * 64 + c.toNat % 64) (by omega)
  rw [encodeChar, hCode, if_neg (by omega), if_pos (by omega), ofNat_eq (b := b) (by omega),
    ofNat_eq (b := c) (by omega)]

/-- The code is neither one that a shorter form has nor a surrogate. -/
theorem encodeChar_of_three {b c d : UInt8} (hb : 0xE0 ≤ b.toNat ∧ b.toNat < 0xF0)
    (hc : 0x80 ≤ c.toNat ∧ c.toNat ≤ 0xBF) (hLeast : b.toNat = 0xE0 → 0xA0 ≤ c.toNat)
    (hGreatest : b.toNat = 0xED → c.toNat ≤ 0x9F) (hd : 0x80 ≤ d.toNat ∧ d.toNat ≤ 0xBF) :
    encodeChar (Char.ofNat ((b.toNat % 16 * 64 + c.toNat % 64) * 64 + d.toNat % 64)) =
      [b, c, d] := by
  have hCode := toNat_ofNat (n := (b.toNat % 16 * 64 + c.toNat % 64) * 64 + d.toNat % 64) (by omega)
  rw [encodeChar, hCode, if_neg (by omega), if_neg (by omega), if_pos (by omega),
    ofNat_eq (b := b) (by omega), ofNat_eq (b := c) (by omega), ofNat_eq (b := d) (by omega)]

/-- The code is neither one that a shorter form has nor beyond the last one. -/
theorem encodeChar_of_four {b c d e : UInt8} (hb : 0xF0 ≤ b.toNat ∧ b.toNat < 0xF5)
    (hc : 0x80 ≤ c.toNat ∧ c.toNat ≤ 0xBF) (hLeast : b.toNat = 0xF0 → 0x90 ≤ c.toNat)
    (hGreatest : b.toNat = 0xF4 → c.toNat ≤ 0x8F) (hd : 0x80 ≤ d.toNat ∧ d.toNat ≤ 0xBF)
    (he : 0x80 ≤ e.toNat ∧ e.toNat ≤ 0xBF) :
    encodeChar (Char.ofNat (((b.toNat % 8 * 64 + c.toNat % 64) * 64 + d.toNat % 64) * 64 +
      e.toNat % 64)) = [b, c, d, e] := by
  have hCode := toNat_ofNat
    (n := ((b.toNat % 8 * 64 + c.toNat % 64) * 64 + d.toNat % 64) * 64 + e.toNat % 64) (by omega)
  rw [encodeChar, hCode, if_neg (by omega), if_neg (by omega), if_neg (by omega),
    ofNat_eq (b := b) (by omega), ofNat_eq (b := c) (by omega), ofNat_eq (b := d) (by omega),
    ofNat_eq (b := e) (by omega)]

/-- The second octet of a character has a narrower range behind some first ones. -/
theorem bounds_of_ite {n first last least greatest m : Nat} (hLeast : 0x80 ≤ least)
    (hGreatest : greatest ≤ 0xBF)
    (h : (if n = first then least else 0x80) ≤ m ∧ m ≤ (if n = last then greatest else 0xBF)) :
    (0x80 ≤ m ∧ m ≤ 0xBF) ∧ (n = first → least ≤ m) ∧ (n = last → m ≤ greatest) := by
  obtain ⟨hLow, hHigh⟩ := h
  refine ⟨⟨?_, ?_⟩, ?_, ?_⟩
  · split at hLow <;> omega
  · split at hHigh <;> omega
  · intro hFirst
    rwa [if_pos hFirst] at hLow
  · intro hLast
    rwa [if_pos hLast] at hHigh

namespace IsClean

variable {left value low high : Nat} {b : UInt8} {octets rest : Octets}

/-- Inside a character comes an octet that can continue it. -/
theorem exists_next (h : IsClean (.pending left value low high) octets) :
    ∃ b rest, octets = b :: rest ∧ low ≤ b.toNat ∧ b.toNat ≤ high := by
  cases octets with
  | nil => exact absurd (h none List.mem_cons_self) (by decide)
  | cons b rest =>
    by_cases hWithin : low ≤ b.toNat ∧ b.toNat ≤ high
    · exact ⟨b, rest, rfl, hWithin⟩
    · have hMark : none ∈ scan (.pending left value low high) (b :: rest) := by
        rw [scan, step_outside hWithin]
        exact List.mem_cons_self
      exact absurd (h none hMark) (by decide)

theorem following (h : IsClean (.pending (left + 1) value low high) (b :: rest))
    (hWithin : low ≤ b.toNat ∧ b.toNat ≤ high) :
    IsClean (.pending left (value * 64 + b.toNat % 64) 0x80 0xBF) rest := by
  intro mark hMark
  apply h
  simp only [scan, step, if_pos hWithin]
  exact hMark

/-- What is scanned without a mark is empty or begins with a character. -/
theorem exists_encodeChar (h : IsClean .ready (b :: rest)) :
    ∃ c more, b :: rest = encodeChar c ++ more := by
  have hMarks : ∀ mark ∈ (begin b.toNat).1 ++ scan (begin b.toNat).2 rest,
      mark.isSome = true := h
  have hBegin (hMark : none ∈ (begin b.toNat).1) : False :=
    absurd (hMarks none (List.mem_append_left _ hMark)) (by decide)
  have hRest : IsClean (begin b.toNat).2 rest :=
    fun mark hMark => hMarks mark (List.mem_append_right _ hMark)
  unfold begin at hBegin hRest
  split at hRest
  · next hOne => exact ⟨_, rest, by rw [encodeChar_of_one hOne]; rfl⟩
  split at hRest
  · next hOne hStray =>
    rw [if_neg hOne, if_pos hStray] at hBegin
    exact (hBegin List.mem_cons_self).elim
  split at hRest
  · obtain ⟨c, more, rfl, hc⟩ := hRest.exists_next
    exact ⟨_, more, by rw [encodeChar_of_two (b := b) (by omega) hc]; rfl⟩
  split at hRest
  · obtain ⟨c, more, rfl, hc⟩ := hRest.exists_next
    obtain ⟨d, more, rfl, hd⟩ := (hRest.following hc).exists_next
    obtain ⟨hTail, hLeast, hGreatest⟩ := bounds_of_ite (by decide) (by decide) hc
    exact ⟨_, more, by rw [encodeChar_of_three (b := b) (by omega) hTail hLeast hGreatest hd]; rfl⟩
  split at hRest
  · obtain ⟨c, more, rfl, hc⟩ := hRest.exists_next
    obtain ⟨d, more, rfl, hd⟩ := (hRest.following hc).exists_next
    obtain ⟨e, more, rfl, he⟩ := ((hRest.following hc).following hd).exists_next
    obtain ⟨hTail, hLeast, hGreatest⟩ := bounds_of_ite (by decide) (by decide) hc
    exact ⟨_, more, by
      rw [encodeChar_of_four (b := b) (by omega) hTail hLeast hGreatest hd he]; rfl⟩
  · next hOne hStray hTwo hThree hFour =>
    rw [if_neg hOne, if_neg hStray, if_neg hTwo, if_neg hThree, if_neg hFour] at hBegin
    exact (hBegin List.mem_cons_self).elim

end IsClean

theorem length_encodeChar_pos (c : Char) : 0 < (encodeChar c).length := by
  unfold encodeChar
  simp only
  repeat' split
  all_goals exact Nat.succ_pos _

theorem decodeLossy_encodeChar_append (c : Char) (rest : Octets) :
    decodeLossy (encodeChar c ++ rest) = c :: decodeLossy rest := by
  rw [decodeLossy, scan_encodeChar_append]
  rfl

theorem encode_decodeLossy {octets : Octets} (h : IsClean .ready octets) :
    encode (decodeLossy octets) = octets := by
  induction hLength : octets.length using Nat.strongRecOn generalizing octets with
  | ind length ih =>
    cases octets with
    | nil => rfl
    | cons b rest =>
      obtain ⟨c, more, hMore⟩ := h.exists_encodeChar
      rw [hMore] at h hLength ⊢
      have hScan := scan_encodeChar_append c more
      have hClean : IsClean .ready more := by
        intro mark hMark
        apply h
        rw [hScan]
        exact List.mem_cons_of_mem _ hMark
      have hShorter : more.length < length := by
        have hPositive := length_encodeChar_pos c
        rw [List.length_append] at hLength
        omega
      rw [decodeLossy_encodeChar_append]
      change encodeChar c ++ encode (decodeLossy more) = _
      rw [ih _ hShorter hClean rfl]

theorem decode?_eq_some_iff {octets : Octets} {t : Text} :
    decode? octets = some t ↔ octets = encode t := by
  constructor
  · intro h
    have hNone : malformed? octets = none := by
      rw [malformed?_eq_none_iff, h]
      rfl
    have hEncode := encode_decodeLossy ((findMalformed_eq_none_iff _ _ _ _).mp hNone)
    have hDecode := decode?_encode (decodeLossy octets)
    rw [hEncode, h] at hDecode
    cases hDecode
    exact hEncode.symm
  · rintro rfl
    exact decode?_encode t

theorem decode?_eq_none_iff {octets : Octets} :
    decode? octets = none ↔ ∀ t, octets ≠ encode t := by
  constructor
  · rintro h t rfl
    rw [decode?_encode] at h
    cases h
  · intro h
    cases hDecode : decode? octets with
    | none => rfl
    | some t => exact absurd (decode?_eq_some_iff.mp hDecode) (h t)

theorem le_of_mem_encodeChar {c : Char} (hChar : 128 ≤ c.toNat) :
    ∀ b ∈ encodeChar c, 128 ≤ b.toNat := by
  have hValid : c.toNat < 0xD800 ∨ (0xDFFF < c.toNat ∧ c.toNat < 0x110000) := c.valid
  have hOctet {n : Nat} (h : 128 ≤ n ∧ n < 256) : 128 ≤ (UInt8.ofNat n).toNat := by
    rw [UInt8.toNat_ofNat']
    omega
  unfold encodeChar
  simp only
  rw [if_neg (by omega)]
  split
  · simp only [List.forall_mem_cons]
    exact ⟨hOctet (by omega), hOctet (by omega), List.forall_mem_nil _⟩
  split
  · simp only [List.forall_mem_cons]
    exact ⟨hOctet (by omega), hOctet (by omega), hOctet (by omega), List.forall_mem_nil _⟩
  · simp only [List.forall_mem_cons]
    exact ⟨hOctet (by omega), hOctet (by omega), hOctet (by omega), hOctet (by omega),
      List.forall_mem_nil _⟩

/-- A character of ASCII is one octet, and no other character has this octet. -/
theorem mem_encodeChar_iff {mark c : Char} (hMark : mark.toNat < 128) :
    UInt8.ofNat mark.toNat ∈ encodeChar c ↔ mark = c := by
  have hCode : (UInt8.ofNat mark.toNat).toNat = mark.toNat := by
    rw [UInt8.toNat_ofNat']
    omega
  by_cases hAscii : c.toNat < 128
  · have hOne : encodeChar c = [UInt8.ofNat c.toNat] := if_pos hAscii
    rw [hOne, List.mem_singleton]
    constructor
    · intro h
      have hSame := congrArg UInt8.toNat h
      rw [hCode, UInt8.toNat_ofNat'] at hSame
      exact Char.toNat_inj.mp (by omega)
    · rintro rfl
      rfl
  · constructor
    · intro h
      have hBeyond := le_of_mem_encodeChar (by omega) _ h
      omega
    · rintro rfl
      exact absurd hMark hAscii

theorem mem_encode_iff {mark : Char} (hMark : mark.toNat < 128) {t : Text} :
    UInt8.ofNat mark.toNat ∈ encode t ↔ mark ∈ t := by
  rw [encode, List.mem_flatMap]
  constructor
  · rintro ⟨c, hc, hOctet⟩
    rwa [(mem_encodeChar_iff hMark).mp hOctet]
  · intro h
    exact ⟨mark, h, (mem_encodeChar_iff hMark).mpr rfl⟩

end RequestLog.Utf8

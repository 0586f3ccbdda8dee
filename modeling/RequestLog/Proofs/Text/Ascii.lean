import RequestLog.Text.Utf8
import RequestLog.Text.Latin1

/-!
# ASCII text

Characters with codes below 128 are one octet in every encoding used here, so a text of such
characters and the list of its codes are the same thing.
-/

namespace RequestLog

def IsAscii (t : Text) : Prop := ∀ c ∈ t, c.toNat < 128

instance (t : Text) : Decidable (IsAscii t) :=
  decidable_of_iff ((t.all fun c => c.toNat < 128) = true) (by simp [IsAscii])

/-- The octets of a text that has no character beyond ASCII. -/
def asciiOctets (t : Text) : Octets := t.map fun c => UInt8.ofNat c.toNat

theorem ne_of_class {P : Char → Bool} {c mark : Char} (h : P c = true) (hMark : P mark = false) :
    c ≠ mark := by
  rintro rfl
  exact absurd (h.symm.trans hMark) (by decide)

/-- A text of characters of one class has none of another. -/
theorem notMem_of_class {P : Char → Bool} {t : Text} (h : ∀ x ∈ t, P x = true) {c : Char}
    (hChar : P c = false) : c ∉ t :=
  fun hMem => ne_of_class (h c hMem) hChar rfl

theorem IsAscii.append {a b : Text} (ha : IsAscii a) (hb : IsAscii b) : IsAscii (a ++ b) := by
  intro c hc
  rcases List.mem_append.mp hc with hc | hc
  · exact ha c hc
  · exact hb c hc

theorem toNat_of_isUpper {c : Char} (h : c.isUpper = true) : 65 ≤ c.toNat ∧ c.toNat ≤ 90 :=
  of_decide_eq_true h

theorem toNat_of_isLower {c : Char} (h : c.isLower = true) : 97 ≤ c.toNat ∧ c.toNat ≤ 122 := by
  obtain ⟨hLow, hHigh⟩ := Bool.and_eq_true_iff.mp h
  exact ⟨of_decide_eq_true hLow, of_decide_eq_true hHigh⟩

theorem toNat_of_isDigit {c : Char} (h : c.isDigit = true) : 48 ≤ c.toNat ∧ c.toNat ≤ 57 := by
  obtain ⟨hLow, hHigh⟩ := Bool.and_eq_true_iff.mp h
  exact ⟨of_decide_eq_true hLow, of_decide_eq_true hHigh⟩

theorem toNat_of_isAlphanum {c : Char} (h : c.isAlphanum = true) :
    48 ≤ c.toNat ∧ c.toNat ≤ 122 := by
  rcases Bool.or_eq_true_iff.mp h with hAlpha | hDigit
  · rcases Bool.or_eq_true_iff.mp hAlpha with hUpper | hLower
    · have := toNat_of_isUpper hUpper
      omega
    · have := toNat_of_isLower hLower
      omega
  · have := toNat_of_isDigit hDigit
    omega

/-- What holds of the hexadecimal digits one by one. -/
theorem of_isHex {P : Char → Prop}
    (h : ∀ n < 128, (Digits.hexValue? n).isSome = true → P (Char.ofNat n)) {c : Char}
    (hHex : Digits.isHex c = true) : P c := by
  have hLt : c.toNat < 128 := by
    simp only [Digits.isHex, Digits.hexValue?] at hHex
    repeat' split at hHex
    · omega
    · omega
    · omega
    · cases hHex
  have hChar := h c.toNat hLt hHex
  rwa [Char.ofNat_toNat] at hChar

/-- Only capitals have a small form of their own. -/
theorem toLower_cases (c : Char) : c.toLower = c ∨ ∃ n < 91, 65 ≤ n ∧ c = Char.ofNat n := by
  by_cases hUpper : c.val ≥ 'A'.val ∧ c.val ≤ 'Z'.val
  · have hLeast : 65 ≤ c.toNat := hUpper.1
    have hGreatest : c.toNat ≤ 90 := hUpper.2
    exact Or.inr ⟨c.toNat, by omega, hLeast, (Char.ofNat_toNat c).symm⟩
  · exact Or.inl (dif_neg hUpper)

/-- A class that has all small letters has the small form of each of its characters. -/
theorem toLower_of_class {P : Char → Bool}
    (hSmall : ∀ n < 91, 65 ≤ n → P (Char.ofNat n).toLower = true) {c : Char} (h : P c = true) :
    P c.toLower = true := by
  rcases toLower_cases c with hSame | ⟨n, hGreatest, hLeast, rfl⟩
  · rwa [hSame]
  · exact hSmall n hGreatest hLeast

theorem toLower_toLower (c : Char) : c.toLower.toLower = c.toLower := by
  rcases toLower_cases c with hSame | ⟨n, hGreatest, hLeast, rfl⟩
  · rw [hSame, hSame]
  · have hSmall : ∀ n < 91, 65 ≤ n →
        (Char.ofNat n).toLower.toLower = (Char.ofNat n).toLower := by decide
    exact hSmall n hGreatest hLeast

/-- What is no small letter is the small form of itself only. -/
theorem eq_of_toLower {c mark : Char} (hMark : mark.isLower = false) (h : c.toLower = mark) :
    c = mark := by
  rcases toLower_cases c with hSame | ⟨n, hGreatest, hLeast, rfl⟩
  · rw [← hSame, h]
  · have hSmall : ∀ n < 91, 65 ≤ n → (Char.ofNat n).toLower.isLower = true := by decide
    have hLetter := hSmall n hGreatest hLeast
    rw [h, hMark] at hLetter
    cases hLetter

theorem encode_of_isAscii {t : Text} (h : IsAscii t) : Utf8.encode t = asciiOctets t := by
  induction t with
  | nil => rfl
  | cons c rest ih =>
    have hChar : Utf8.encodeChar c = [UInt8.ofNat c.toNat] := by
      rw [Utf8.encodeChar]
      exact if_pos (h c List.mem_cons_self)
    change Utf8.encodeChar c ++ Utf8.encode rest = UInt8.ofNat c.toNat :: asciiOctets rest
    rw [hChar, ih fun x hx => h x (List.mem_cons_of_mem c hx)]
    rfl

theorem decode_asciiOctets {t : Text} (h : IsAscii t) : Latin1.decode (asciiOctets t) = t := by
  apply Latin1.decode_map
  intro c hc
  have hCode := h c hc
  exact decide_eq_true (by omega)

theorem asciiOctets_append (a b : Text) : asciiOctets (a ++ b) = asciiOctets a ++ asciiOctets b :=
  List.map_append

theorem notMem_asciiOctets {t : Text} {c : Char} (hText : IsAscii t) (hChar : c.toNat < 128)
    (h : c ∉ t) : UInt8.ofNat c.toNat ∉ asciiOctets t := by
  intro hMem
  obtain ⟨x, hx, hEq⟩ := List.mem_map.mp hMem
  have hCode := congrArg UInt8.toNat hEq
  have hAscii := hText x hx
  simp only [UInt8.toNat_ofNat'] at hCode
  have hSame : x = c := Char.toNat_inj.mp (by omega)
  exact h (hSame ▸ hx)

end RequestLog

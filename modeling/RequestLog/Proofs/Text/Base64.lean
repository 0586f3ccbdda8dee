import RequestLog.Text.Base64

/-!
# Reading Base64 back

What is written consists of the digits of the octets, six bits each, and of padding up to a whole
group of four. The strict reader takes the digits apart from the padding, finds that the padding
fits, and gives the octets back.
-/

namespace RequestLog.Base64

/-- The digit values of an octet list, the spare bits of the last one zero. -/
def sextets : Octets → List Nat
  | a :: b :: c :: rest =>
    let n := (a.toNat * 256 + b.toNat) * 256 + c.toNat
    n / 262144 :: n / 4096 % 64 :: n / 64 % 64 :: n % 64 :: sextets rest
  | [a, b] =>
    let n := (a.toNat * 256 + b.toNat) * 4
    [n / 4096, n / 64 % 64, n % 64]
  | [a] =>
    let n := a.toNat * 16
    [n / 64, n % 64]
  | [] => []

/-- How much padding follows the digits of so many octets. -/
def padding (length : Nat) : Nat := (3 - length % 3) % 3

theorem padding_add_three (length : Nat) : padding (length + 3) = padding length := by
  rw [padding, padding, Nat.add_mod_right]

theorem encode_eq (list : Octets) : encode list =
    (sextets list).map digit ++ List.replicate (padding list.length) '=' := by
  induction list using encode.induct with
  | case1 a b c rest ih =>
    have hLength : (a :: b :: c :: rest).length = rest.length + 3 := rfl
    rw [encode, sextets, ih, hLength, padding_add_three]
    rfl
  | case2 a b => rfl
  | case3 a => rfl
  | case4 => rfl

theorem sextets_lt (list : Octets) : ∀ n ∈ sextets list, n < 64 := by
  induction list using encode.induct with
  | case1 a b c rest ih =>
    have ha := a.toNat_lt
    have hb := b.toNat_lt
    have hc := c.toNat_lt
    simp only [sextets, List.forall_mem_cons]
    refine ⟨?_, ?_, ?_, ?_, ih⟩ <;> omega
  | case2 a b =>
    have ha := a.toNat_lt
    have hb := b.toNat_lt
    simp only [sextets, List.forall_mem_cons]
    refine ⟨?_, ?_, ?_, List.forall_mem_nil _⟩ <;> omega
  | case3 a =>
    have ha := a.toNat_lt
    simp only [sextets, List.forall_mem_cons]
    refine ⟨?_, ?_, List.forall_mem_nil _⟩ <;> omega
  | case4 => exact List.forall_mem_nil _

theorem ofNat_eq {n : Nat} {b : UInt8} (h : n = b.toNat) : UInt8.ofNat n = b := by
  rw [h, UInt8.ofNat_toNat]

/-- The four digits of a number give back its three octets. -/
theorem octets_group (n : Nat) (rest : List Nat) :
    octets (n / 262144 :: n / 4096 % 64 :: n / 64 % 64 :: n % 64 :: rest) =
      UInt8.ofNat (n / 65536) :: UInt8.ofNat (n / 256 % 256) :: UInt8.ofNat (n % 256) ::
        octets rest := by
  have hJoined : ((n / 262144 * 64 + n / 4096 % 64) * 64 + n / 64 % 64) * 64 + n % 64 = n := by
    omega
  simp only [octets, hJoined]

theorem octets_sextets (list : Octets) : octets (sextets list) = list := by
  induction list using encode.induct with
  | case1 a b c rest ih =>
    have hb := b.toNat_lt
    have hc := c.toNat_lt
    simp only [sextets]
    rw [octets_group, ih, ofNat_eq (b := a) (by omega), ofNat_eq (b := b) (by omega),
      ofNat_eq (b := c) (by omega)]
  | case2 a b =>
    have hb := b.toNat_lt
    simp only [sextets, octets]
    rw [ofNat_eq (b := a) (by omega), ofNat_eq (b := b) (by omega)]
  | case3 a =>
    simp only [sextets, octets]
    rw [ofNat_eq (b := a) (by omega)]
  | case4 => rfl

theorem paddingFits_add_four {digits padding : Nat} (h : paddingFits digits padding = true) :
    paddingFits (digits + 4) padding = true := by
  unfold paddingFits at h ⊢
  rw [Nat.add_mod_right]
  split at h
  · have hNonzero : (digits + 4 != 0) = true := by simp
    rw [hNonzero, Bool.or_true]
  · exact h
  · exact h
  · exact h

theorem paddingFits_sextets (list : Octets) :
    paddingFits (sextets list).length (padding list.length) = true := by
  induction list using encode.induct with
  | case1 a b c rest ih =>
    have hLength : (a :: b :: c :: rest).length = rest.length + 3 := rfl
    have hDigits : (sextets (a :: b :: c :: rest)).length = (sextets rest).length + 4 := rfl
    rw [hLength, hDigits, padding_add_three]
    exact paddingFits_add_four ih
  | case2 a b => rfl
  | case3 a => rfl
  | case4 => rfl

theorem isDigit_digit {n : Nat} (h : n < 64) : isDigit (digit n) = true := by
  rw [isDigit, value?_digit n h]
  rfl

theorem filterMap_value?_digit {list : List Nat} (h : ∀ n ∈ list, n < 64) :
    (list.map digit).filterMap value? = list := by
  induction list with
  | nil => rfl
  | cons n rest ih =>
    obtain ⟨hFirst, hRest⟩ := List.forall_mem_cons.mp h
    rw [List.map_cons, List.filterMap_cons_some (value?_digit n hFirst), ih hRest]

theorem decode?_encode (list : Octets) : decode? (encode list) = some list := by
  have hDigits : ∀ c ∈ (sextets list).map digit, isDigit c = true := by
    intro c hc
    obtain ⟨n, hn, rfl⟩ := List.mem_map.mp hc
    exact isDigit_digit (sextets_lt list n hn)
  have hStop : (List.replicate (padding list.length) '=').takeWhile isDigit = [] ∧
      (List.replicate (padding list.length) '=').dropWhile isDigit =
        List.replicate (padding list.length) '=' := by
    cases padding list.length with
    | zero => exact ⟨rfl, rfl⟩
    | succ n => exact ⟨rfl, rfl⟩
  have hTake : (encode list).takeWhile isDigit = (sextets list).map digit := by
    rw [encode_eq, List.takeWhile_append_of_pos hDigits, hStop.1, List.append_nil]
  have hDrop : (encode list).dropWhile isDigit = List.replicate (padding list.length) '=' := by
    rw [encode_eq, List.dropWhile_append_of_pos hDigits, hStop.2]
  have hPadding : (List.replicate (padding list.length) '=').all (· == '=') = true := by
    rw [List.all_eq_true]
    intro c hc
    rw [List.eq_of_mem_replicate hc]
    rfl
  simp only [decode?, hTake, hDrop, hPadding, List.length_map, List.length_replicate,
    paddingFits_sextets, Bool.and_self, ↓reduceIte, filterMap_value?_digit (sextets_lt list),
    octets_sextets]

theorem toNat_digit_lt : ∀ n < 64, (digit n).toNat < 128 := by decide

/-- What is written is ASCII. -/
theorem toNat_lt_of_mem_encode {list : Octets} {c : Char} (h : c ∈ encode list) :
    c.toNat < 128 := by
  rw [encode_eq] at h
  rcases List.mem_append.mp h with h | h
  · obtain ⟨n, hn, rfl⟩ := List.mem_map.mp h
    exact toNat_digit_lt n (sextets_lt list n hn)
  · rw [List.eq_of_mem_replicate h]
    decide

end RequestLog.Base64

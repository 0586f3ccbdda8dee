import RequestLog.Proofs.Text.Ascii
import RequestLog.Text.LowerCase

/-!
# Small forms

A text in lower case has no capital of ASCII left: capitals of ASCII move, and no other character
has one of them for its small form. A field whose name has such a capital is therefore never found.
-/

namespace RequestLog.LowerCase

theorem shifts_beyond : ∀ shift ∈ shifts, 90 < (shift.1 : Int) + shift.2.2.2 := by decide +kernel

theorem lt_shifted {code : Nat} (h : 90 < code) : 90 < (code : Int) + shiftOf code := by
  unfold shiftOf
  split
  · next first last step distance hFind =>
    have hBeyond := shifts_beyond _ (List.mem_of_find?_eq_some hFind)
    have hWithin := List.find?_some hFind
    simp only [Bool.and_eq_true, decide_eq_true_eq] at hBeyond hWithin
    omega
  · omega

theorem toLower_of_lt {c : Char} (h : 90 < c.toNat) : c.toLower = c := by
  refine dif_neg ?_
  rintro ⟨-, hCapital⟩
  have hGreatest : c.toNat ≤ 90 := hCapital
  omega

theorem toLower_ofNat {n : Nat} (h : 90 < n) : (Char.ofNat n).toLower = Char.ofNat n := by
  by_cases hValid : n.isValidChar
  · apply toLower_of_lt
    have hCode : (Char.ofNat n).toNat = n := by
      rw [Char.ofNat, dif_pos hValid]
      rfl
    omega
  · rw [Char.ofNat, dif_neg hValid]
    rfl

theorem toLower_of_mem_lowerChar {before after : Text} {c small : Char}
    (h : small ∈ lowerChar before c after) : small.toLower = small := by
  unfold lowerChar at h
  split at h
  · rw [List.mem_singleton.mp h, toLower_toLower]
  · next hBeyond =>
    split at h
    · rcases List.mem_cons.mp h with rfl | h
      · rfl
      · rw [List.mem_singleton.mp h]
        rfl
    · split at h
      · rw [List.mem_singleton.mp h]
        split <;> rfl
      · rw [List.mem_singleton.mp h]
        have hCode : 90 < c.toNat := by omega
        have hShifted := lt_shifted hCode
        exact toLower_ofNat (by omega)

theorem toLower_of_mem_lowerAfter {before t : Text} {small : Char}
    (h : small ∈ lowerAfter before t) : small.toLower = small := by
  induction t generalizing before with
  | nil => cases h
  | cons c rest ih =>
    rw [lowerAfter] at h
    rcases List.mem_append.mp h with hFirst | hRest
    · exact toLower_of_mem_lowerChar hFirst
    · exact ih hRest

theorem map_toLower_lower (t : Text) : (lower t).map Char.toLower = lower t := by
  have hSame : (lower t).map Char.toLower = (lower t).map id :=
    List.map_congr_left fun _ hSmall => toLower_of_mem_lowerAfter hSmall
  rw [hSame, List.map_id]

end RequestLog.LowerCase

import RequestLog.Proofs.Uri.Rejoin

/-!
# Safe locations

A network location is safe when it passes all checks, none of its characters ends it or is dropped
from it, and it has no user part. Characters other than brackets, separators and line breaks make
safe locations. A plain location, of name characters and colons, is one of these, and so is every
usable host that does not begin with a bracket.
-/

namespace RequestLog.Uri

/-- A network location that is read as it was written, and that names no user. -/
structure IsSafeLocation (netloc : Text) : Prop where
  nonempty : netloc ≠ []
  inside : ∀ c ∈ netloc, endsNetloc c = false ∧ isBreak c = false
  anonymous : '@' ∉ netloc
  accepted : IsAccepted netloc

def isLocationChar (c : Char) : Bool := HostHeader.isNameChar c || c == ':'

/-- A network location without brackets and without a user part. -/
def IsPlainLocation (netloc : Text) : Prop :=
  netloc ≠ [] ∧ ∀ c ∈ netloc, isLocationChar c = true

theorem hidesSeparator_of_ascii {c : Char} (h : c.toNat < 128) : hidesSeparator c = false := by
  rw [Bool.eq_false_iff]
  intro hHides
  have hBeyond : ∀ n ∈ [0x2047, 0x2048, 0x2049, 0x2100, 0x2101, 0x2105, 0x2106, 0x2A74, 0xFE13,
      0xFE16, 0xFE55, 0xFE56, 0xFE5F, 0xFE6B, 0xFF03, 0xFF0F, 0xFF1A, 0xFF1F, 0xFF20], 128 ≤ n := by
    decide
  have := hBeyond _ (List.contains_iff_mem.mp hHides)
  omega

theorem isAscii_of_isNameChar {c : Char} (h : HostHeader.isNameChar c = true) :
    c.toNat < 128 := by
  rcases Bool.or_eq_true _ _ ▸ h with h | h
  · have := toNat_of_isAlphanum h
    omega
  · have hAscii : ("._~%!$&'()*+,;=-".toList.all fun x => x.toNat < 128) = true := by decide
    exact of_decide_eq_true (List.all_eq_true.mp hAscii c (List.contains_iff_mem.mp h))

theorem isAscii_of_isLocationChar {c : Char} (h : isLocationChar c = true) : c.toNat < 128 := by
  rcases Bool.or_eq_true _ _ ▸ h with h | h
  · exact isAscii_of_isNameChar h
  · rw [beq_iff_eq.mp h]
    decide

/-- Any character but brackets, line breaks, and what begins another part or would be taken to. -/
def isHostChar (c : Char) : Bool :=
  !(endsNetloc c || isBreak c || hidesSeparator c || "[]@:".toList.contains c)

def isAuthorityChar (c : Char) : Bool := isHostChar c || c == ':'

theorem isAuthorityChar_iff {c : Char} : isAuthorityChar c = true ↔
    endsNetloc c = false ∧ isBreak c = false ∧ hidesSeparator c = false ∧
      c ≠ '[' ∧ c ≠ ']' ∧ c ≠ '@' := by
  by_cases hColon : c = ':'
  · subst hColon
    decide
  · simp [isAuthorityChar, isHostChar, hColon, and_assoc]

theorem isSafeLocation_of_isAuthorityChar {netloc : Text} (hNonempty : netloc ≠ [])
    (h : ∀ c ∈ netloc, isAuthorityChar c = true) : IsSafeLocation netloc := by
  have hOpening : netloc.contains '[' = false := by
    simpa using notMem_of_class h (c := '[') (by decide)
  have hClosing : netloc.contains ']' = false := by
    simpa using notMem_of_class h (c := ']') (by decide)
  have hSeparators : netloc.any hidesSeparator = false := by
    rw [List.any_eq_false]
    intro c hc
    rw [(isAuthorityChar_iff.mp (h c hc)).2.2.1]
    decide
  refine ⟨hNonempty, ?_, notMem_of_class h (by decide), ?_, ?_⟩
  · intro c hc
    obtain ⟨hEnds, hBreak, -⟩ := isAuthorityChar_iff.mp (h c hc)
    exact ⟨hEnds, hBreak⟩
  · rw [checkBrackets, hOpening, hClosing]
    rfl
  · rw [checkNetloc, hSeparators]
    rfl

theorem isAuthorityChar_of_isLocationChar {c : Char} (h : isLocationChar c = true) :
    isAuthorityChar c = true := by
  rw [isAuthorityChar_iff]
  refine ⟨?_, ?_, hidesSeparator_of_ascii (isAscii_of_isLocationChar h), ?_, ?_, ?_⟩
  · exact endsNetloc_of_class (by decide) (by decide) (by decide) h
  · exact isBreak_of_class (by decide) (by decide) (by decide) h
  · exact ne_of_class h (by decide)
  · exact ne_of_class h (by decide)
  · exact ne_of_class h (by decide)

theorem IsPlainLocation.isSafe {netloc : Text} (h : IsPlainLocation netloc) :
    IsSafeLocation netloc :=
  isSafeLocation_of_isAuthorityChar h.1 fun c hc => isAuthorityChar_of_isLocationChar (h.2 c hc)

theorem IsSafeLocation.username? {p : Parts} (h : IsSafeLocation p.netloc) :
    p.username? = none := by
  rw [Parts.username?, cutLast_of_notMem h.anonymous]

theorem isNameChar_of_isDigit {c : Char} (h : c.isDigit = true) :
    HostHeader.isNameChar c = true := by
  simp [HostHeader.isNameChar, Char.isAlphanum, h]

/-- A usable host is a plain location unless it begins with a bracket. -/
theorem isPlainLocation_of_isUsable {host : Text} (h : HostHeader.isUsable host = true)
    (hBracket : host.head? ≠ some '[') : IsPlainLocation host := by
  unfold HostHeader.isUsable at h
  split at h
  · exact absurd rfl hBracket
  · obtain ⟨hName, hSuffix⟩ := Bool.and_eq_true _ _ ▸ h
    have hHost := List.takeWhile_append_dropWhile (p := HostHeader.isNameChar) (l := host)
    constructor
    · rintro rfl
      exact absurd hName (by decide)
    · intro c hc
      rw [← hHost] at hc
      rcases List.mem_append.mp hc with hc | hc
      · have hAll := List.all_takeWhile (p := HostHeader.isNameChar) (l := host)
        rw [isLocationChar, List.all_eq_true.mp hAll c hc, Bool.true_or]
      · cases hRest : host.dropWhile HostHeader.isNameChar with
        | nil => rw [hRest] at hc; cases hc
        | cons first port =>
          simp only [hRest, HostHeader.isPortSuffix, HostHeader.isPort, Bool.and_eq_true] at hSuffix
          rw [hRest] at hc
          rcases List.mem_cons.mp hc with rfl | hc
          · rw [isLocationChar, hSuffix.1, Bool.or_true]
          · have hDigit := List.all_eq_true.mp hSuffix.2.1.2 c hc
            rw [isLocationChar, isNameChar_of_isDigit hDigit, Bool.true_or]

end RequestLog.Uri

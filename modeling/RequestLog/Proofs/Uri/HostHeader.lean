import RequestLog.Proofs.Text.Splits
import RequestLog.Proofs.Uri.Location

/-!
# Usable hosts

Every usable host is a safe location. Without brackets it is a plain one; between brackets it has
an address of the sixth version or of a future one, whose characters are plain too, and which the
check of the brackets accepts.
-/

namespace RequestLog.Uri

theorem isLocationChar_of_isHex {c : Char} (h : Digits.isHex c = true) :
    isLocationChar c = true :=
  of_isHex (P := fun c => isLocationChar c = true) (by decide) h

theorem isLocationChar_of_isAddress {t : Text} (h : HostHeader.isAddress t = true) :
    ∀ c ∈ t, isLocationChar c = true := by
  intro c hc
  unfold HostHeader.isAddress at h
  split at h
  · have hChar := List.all_eq_true.mp (Bool.and_eq_true_iff.mp h).2 c hc
    simp only [Bool.or_eq_true, Bool.and_eq_true] at hChar
    rcases hChar with ⟨hName, -⟩ | hColon
    · rw [isLocationChar, hName, Bool.true_or]
    · rw [isLocationChar, hColon, Bool.or_true]
  · have hChar := List.all_eq_true.mp (Bool.and_eq_true_iff.mp h).2 c hc
    simp only [Bool.or_eq_true, beq_iff_eq] at hChar
    rcases hChar with (hHex | rfl) | rfl
    · exact isLocationChar_of_isHex hHex
    · decide
    · decide

theorem colon_mem_of_isV6 {t : Text} (h : IpAddress.isV6 t = true) : ':' ∈ t := by
  have hColon (address : Text) (hGroups : (IpAddress.groups? address).isSome = true) :
      ':' ∈ address := by
    by_cases hMem : ':' ∈ address
    · exact hMem
    · simp [IpAddress.groups?, pieces_of_notMem hMem] at hGroups
  unfold IpAddress.isV6 at h
  cases hAddress : IpAddress.withoutZone? t with
  | none => simp [hAddress] at h
  | some address =>
    have hGroups : (IpAddress.groups? address).isSome = true := by
      cases hGroups : IpAddress.groups? address with
      | none => simp [hAddress, hGroups] at h
      | some groups => rfl
    have hPart : address = (cut '%' t).1 := by
      unfold IpAddress.withoutZone? at hAddress
      split at hAddress
      · next hCut => rw [hCut, Option.some.inj hAddress]
      · next hCut =>
        split at hAddress
        · cases hAddress
        · rw [hCut, Option.some.inj hAddress]
    exact mem_of_mem_cut_fst (hPart ▸ hColon address hGroups)

theorem not_isV4_of_isV6 {t : Text} (h : IpAddress.isV6 t = true) : IpAddress.isV4 t = false := by
  rw [Bool.eq_false_iff]
  intro hV4
  obtain ⟨octet, hOctet, hMem⟩ := exists_mem_pieces (colon_mem_of_isV6 h)
    (show ':' ≠ '.' by decide)
  have hDigits := List.all_eq_true.mp (Bool.and_eq_true_iff.mp hV4).2 octet hOctet
  simp only [IpAddress.isOctet, Bool.and_eq_true] at hDigits
  exact absurd (List.all_eq_true.mp hDigits.1.1.1.2 ':' hMem) (by decide)

theorem checkBracketedHost_of_isAddress {t : Text} (h : HostHeader.isAddress t = true) :
    checkBracketedHost t = .ok () := by
  unfold HostHeader.isAddress at h
  unfold checkBracketedHost
  split at h
  · next hFuture => rw [if_pos hFuture, if_pos (Bool.and_eq_true_iff.mp h).1]
  · next hFuture =>
    have hV6 := (Bool.and_eq_true_iff.mp h).1
    rw [if_neg hFuture, not_isV4_of_isV6 hV6, hV6]
    rfl

theorem isLocationChar_of_isPortSuffix {suffix : Text}
    (h : HostHeader.isPortSuffix suffix = true) : ∀ c ∈ suffix, isLocationChar c = true := by
  cases suffix with
  | nil => exact List.forall_mem_nil _
  | cons first port =>
    simp only [HostHeader.isPortSuffix, HostHeader.isPort, Bool.and_eq_true] at h
    intro c hc
    rcases List.mem_cons.mp hc with rfl | hc
    · rw [isLocationChar, h.1, Bool.or_true]
    · rw [isLocationChar, isNameChar_of_isDigit (List.all_eq_true.mp h.2.1.2 c hc), Bool.true_or]

theorem bracketedHost_eq {address suffix : Text} (hAddress : ∀ c ∈ address, isLocationChar c = true)
    (hSuffix : HostHeader.isPortSuffix suffix = true) :
    bracketedHost ('[' :: address ++ ']' :: suffix) = .ok address := by
  have hPort := isLocationChar_of_isPortSuffix hSuffix
  have hUser : '@' ∉ '[' :: address ++ ']' :: suffix := by
    have hAt {t : Text} (h : ∀ c ∈ t, isLocationChar c = true) : '@' ∉ t :=
      notMem_of_class h (by decide)
    simp [hAt hAddress, hAt hPort]
  have hOpening : cut '[' ('[' :: address ++ ']' :: suffix) =
      ([], some (address ++ ']' :: suffix)) := rfl
  have hClosing : cut ']' (address ++ ']' :: suffix) = (address, some suffix) :=
    cut_append_cons (notMem_of_class hAddress (by decide)) suffix
  rw [bracketedHost, cutLast_of_notMem hUser]
  simp only [hOpening, hClosing]
  cases suffix with
  | nil => rfl
  | cons first port =>
    simp only [HostHeader.isPortSuffix, Bool.and_eq_true, beq_iff_eq] at hSuffix
    simp [hSuffix.1]

/-- Characters of a bracketed location: plain ones and the brackets. -/
def isBracketedChar (c : Char) : Bool := isLocationChar c || c == '[' || c == ']'

theorem isBracketedChar_bracketed {address suffix : Text}
    (hAddress : HostHeader.isAddress address = true)
    (hSuffix : HostHeader.isPortSuffix suffix = true) :
    ∀ c ∈ '[' :: address ++ ']' :: suffix, isBracketedChar c = true := by
  intro c hc
  simp only [List.cons_append, List.mem_cons, List.mem_append] at hc
  rcases hc with rfl | hc | rfl | hc
  · decide
  · rw [isBracketedChar, isLocationChar_of_isAddress hAddress c hc, Bool.true_or, Bool.true_or]
  · decide
  · rw [isBracketedChar, isLocationChar_of_isPortSuffix hSuffix c hc, Bool.true_or, Bool.true_or]

theorem isAscii_of_isBracketedChar {c : Char} (h : isBracketedChar c = true) : c.toNat < 128 := by
  simp only [isBracketedChar, Bool.or_eq_true, beq_iff_eq] at h
  rcases h with (h | rfl) | rfl
  · exact isAscii_of_isLocationChar h
  · decide
  · decide

theorem isSafeLocation_bracketed {address suffix : Text}
    (hAddress : HostHeader.isAddress address = true)
    (hSuffix : HostHeader.isPortSuffix suffix = true) :
    IsSafeLocation ('[' :: address ++ ']' :: suffix) := by
  have hChars := isBracketedChar_bracketed hAddress hSuffix
  refine ⟨List.cons_ne_nil _ _, ?_, notMem_of_class hChars (by decide), ?_, ?_⟩
  · intro c hc
    exact ⟨endsNetloc_of_class (by decide) (by decide) (by decide) (hChars c hc),
      isBreak_of_class (by decide) (by decide) (by decide) (hChars c hc)⟩
  · have hOpening : ('[' :: address ++ ']' :: suffix).contains '[' = true := by simp
    have hClosing : ('[' :: address ++ ']' :: suffix).contains ']' = true := by simp
    rw [checkBrackets, hOpening, hClosing,
      bracketedHost_eq (isLocationChar_of_isAddress hAddress) hSuffix]
    exact checkBracketedHost_of_isAddress hAddress
  · have hSeparators : ('[' :: address ++ ']' :: suffix).any hidesSeparator = false := by
      rw [List.any_eq_false]
      intro c hc
      rw [hidesSeparator_of_ascii (isAscii_of_isBracketedChar (hChars c hc))]
      decide
    rw [checkNetloc, hSeparators]
    rfl

theorem isUsable_cases {host : Text} (h : HostHeader.isUsable host = true) :
    IsPlainLocation host ∨ ∃ address suffix, host = '[' :: address ++ ']' :: suffix ∧
      HostHeader.isAddress address = true ∧ HostHeader.isPortSuffix suffix = true := by
  by_cases hBracket : host.head? = some '['
  · obtain ⟨inside, rfl⟩ := List.head?_eq_some_iff.mp hBracket
    cases hCut : cut ']' inside with
    | mk address rest =>
      cases rest with
      | none => simp [HostHeader.isUsable, hCut] at h
      | some suffix =>
        rw [eq_of_cut_eq_some hCut]
        exact Or.inr ⟨address, suffix, rfl, by simpa [HostHeader.isUsable, hCut] using h⟩
  · exact Or.inl (isPlainLocation_of_isUsable h hBracket)

theorem isSafeLocation_of_isUsable {host : Text} (h : HostHeader.isUsable host = true) :
    IsSafeLocation host := by
  rcases isUsable_cases h with hPlain | ⟨address, suffix, rfl, hAddress, hSuffix⟩
  · exact hPlain.isSafe
  · exact isSafeLocation_bracketed hAddress hSuffix

theorem isBracketedChar_of_isUsable {host : Text} (h : HostHeader.isUsable host = true) :
    ∀ c ∈ host, isBracketedChar c = true := by
  rcases isUsable_cases h with hPlain | ⟨address, suffix, rfl, hAddress, hSuffix⟩
  · intro c hc
    rw [isBracketedChar, hPlain.2 c hc, Bool.true_or, Bool.true_or]
  · exact isBracketedChar_bracketed hAddress hSuffix

end RequestLog.Uri

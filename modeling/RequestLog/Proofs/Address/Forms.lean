import RequestLog.Proofs.Text.Splits
import RequestLog.Request

/-!
# The forms of an address

An address denotes a host and a port in one of two forms: both without colons and brackets and a
colon between them, or the host in brackets and then a colon and the port. A host in brackets may
have colons, but no brackets. Splitting reads exactly these forms, and nothing denotes two hosts or
two ports; any other text is refused by a fault that names it.
-/

namespace RequestLog.Address

structure IsUnbracketed (t : Text) : Prop where
  opening : '[' ∉ t
  closing : ']' ∉ t

/-- Without colons and brackets. -/
structure IsBare (t : Text) : Prop extends IsUnbracketed t where
  colon : ':' ∉ t

inductive Denotes : (address host port : Text) → Prop
  | plain {host port : Text} (hHost : IsBare host) (hPort : IsBare port) :
      Denotes (host ++ ':' :: port) host port
  | bracketed {host port : Text} (hHost : IsUnbracketed host) (hPort : IsBare port) :
      Denotes ('[' :: host ++ ']' :: ':' :: port) host port

variable {address inside host port : Text}

theorem hasBracket_eq_false_iff {t : Text} : hasBracket t = false ↔ IsUnbracketed t := by
  rw [hasBracket, Bool.or_eq_false_iff]
  constructor
  · rintro ⟨hOpening, hClosing⟩
    exact ⟨by simpa using hOpening, by simpa using hClosing⟩
  · rintro ⟨hOpening, hClosing⟩
    exact ⟨by simpa using hOpening, by simpa using hClosing⟩

theorem checkPort_eq_ok_iff {found : Text × Text} :
    checkPort host port = .ok found ↔ IsUnbracketed port ∧ found = (host, port) := by
  rw [← hasBracket_eq_false_iff, checkPort]
  cases hasBracket port with
  | true => simp
  | false => simp [eq_comm]

theorem splitBracketed_eq_ok_iff : splitBracketed inside = .ok (host, port) ↔
    IsUnbracketed host ∧ IsBare port ∧ inside = host ++ ']' :: ':' :: port := by
  constructor
  · intro h
    unfold splitBracketed at h
    split at h
    · cases h
    · cases h
    · next found first rest hCut =>
      split at h
      · cases h
      · next hFirst =>
        split at h
        · cases h
        · next hOpening =>
          split at h
          · cases h
          · next hColon =>
            obtain ⟨hPort, hFound⟩ := checkPort_eq_ok_iff.mp h
            cases hFound
            obtain rfl : first = ':' := Decidable.not_not.mp hFirst
            obtain ⟨hInside, hClosing⟩ := cut_eq_some_iff.mp hCut
            refine ⟨⟨?_, hClosing⟩, ⟨hPort, ?_⟩, hInside⟩
            · simpa using hOpening
            · simpa using hColon
  · rintro ⟨hHost, hPort, rfl⟩
    have hOpening : host.contains '[' = false := by simpa using hHost.opening
    have hColon : port.contains ':' = false := by simpa using hPort.colon
    rw [splitBracketed, cut_append_cons hHost.closing]
    simp only [ne_eq, not_true_eq_false, ↓reduceIte, hOpening, hColon, Bool.false_eq_true]
    exact checkPort_eq_ok_iff.mpr ⟨hPort.toIsUnbracketed, rfl⟩

theorem splitPlain_eq_ok_iff : splitPlain address = .ok (host, port) ↔
    IsBare host ∧ IsBare port ∧ address = host ++ ':' :: port := by
  constructor
  · intro h
    unfold splitPlain at h
    split at h
    · cases h
    · next found rest hCut =>
      split at h
      · cases h
      · next hColon =>
        split at h
        · cases h
        · next hBracket =>
          obtain ⟨hPort, hFound⟩ := checkPort_eq_ok_iff.mp h
          cases hFound
          obtain ⟨hAddress, hAfter⟩ := cutLast_eq_some_iff.mp hCut
          refine ⟨⟨?_, ?_⟩, ⟨hPort, hAfter⟩, hAddress⟩
          · exact hasBracket_eq_false_iff.mp (Bool.eq_false_iff.mpr hBracket)
          · simpa using hColon
  · rintro ⟨hHost, hPort, rfl⟩
    have hColon : host.contains ':' = false := by simpa using hHost.colon
    have hBracket := hasBracket_eq_false_iff.mpr hHost.toIsUnbracketed
    rw [splitPlain, cutLast_append_cons hPort.colon]
    simp only [hColon, hBracket, ↓reduceIte, Bool.false_eq_true]
    exact checkPort_eq_ok_iff.mpr ⟨hPort.toIsUnbracketed, rfl⟩

theorem split_of_head? (h : address.head? ≠ some '[') : split address = splitPlain address := by
  unfold split
  split
  · exact absurd rfl h
  · rfl

theorem head?_plain (hHost : IsUnbracketed host) (port : Text) :
    (host ++ ':' :: port).head? ≠ some '[' := by
  cases host with
  | nil => simp
  | cons first rest =>
    intro hHead
    apply hHost.opening
    rw [← Option.some.inj hHead]
    exact List.mem_cons_self

theorem split_eq_ok_iff : split address = .ok (host, port) ↔ Denotes address host port := by
  constructor
  · intro h
    unfold split at h
    split at h
    · obtain ⟨hHost, hPort, rfl⟩ := splitBracketed_eq_ok_iff.mp h
      exact .bracketed hHost hPort
    · obtain ⟨hHost, hPort, rfl⟩ := splitPlain_eq_ok_iff.mp h
      exact .plain hHost hPort
  · intro h
    cases h with
    | plain hHost hPort =>
      rw [split_of_head? (head?_plain hHost.toIsUnbracketed port)]
      exact splitPlain_eq_ok_iff.mpr ⟨hHost, hPort, rfl⟩
    | bracketed hHost hPort => exact splitBracketed_eq_ok_iff.mpr ⟨hHost, hPort, rfl⟩

theorem Denotes.unique {host₁ port₁ host₂ port₂ : Text} (h₁ : Denotes address host₁ port₁)
    (h₂ : Denotes address host₂ port₂) : host₁ = host₂ ∧ port₁ = port₂ := by
  rw [← split_eq_ok_iff] at h₁ h₂
  cases h₁.symm.trans h₂
  exact ⟨rfl, rfl⟩

theorem host_of_denotes (h : Denotes address host port) : Address.host address = host := by
  rw [Address.host, split_eq_ok_iff.mpr h]

theorem read_eq_ok_iff : read address = .ok (host, port) ↔ Denotes address host port := by
  rw [← split_eq_ok_iff, read]
  cases split address with
  | ok found => rw [Except.ok.injEq, Except.ok.injEq]
  | error cause =>
    constructor
    · rintro ⟨⟩
    · rintro ⟨⟩

/-- The fault of an address that cannot be split has the address in its context. -/
theorem context_addressSplit (address reason : Text) :
    (LogError.addressSplit (.text address) (.text reason)).context .null =
      .object [("address".toList, .text address), ("reason".toList, .text reason)] := rfl

theorem split_refused (h : ∀ host port, ¬Denotes address host port) :
    ∃ cause, split address = .error cause := by
  cases hSplit : split address with
  | error cause => exact ⟨cause, rfl⟩
  | ok found => exact absurd (split_eq_ok_iff.mp hSplit) (h found.1 found.2)

/-- An address is split exactly if it denotes a host and a port, and it denotes no others. Any other
text is refused by a fault that names it, and stands for its own host. -/
theorem read_eq_ok_iff_denotes (address : Text) :
    (∀ host port, read address = .ok (host, port) ↔ Denotes address host port) ∧
    (∀ host₁ port₁ host₂ port₂, Denotes address host₁ port₁ → Denotes address host₂ port₂ →
      host₁ = host₂ ∧ port₁ = port₂) ∧
    ((∀ host port, ¬Denotes address host port) →
      (∃ error given fields, read address = .error (.own error given) ∧
        error.kind = .addressSplit ∧ error.context given = .object fields ∧
        Entries.get? fields "address".toList = some (.text address)) ∧
      Address.host address = address) := by
  refine ⟨?_, ?_, ?_⟩
  · intro host port
    exact read_eq_ok_iff
  · intro host₁ port₁ host₂ port₂ h₁ h₂
    exact h₁.unique h₂
  · intro hNone
    obtain ⟨cause, hSplit⟩ := split_refused hNone
    constructor
    · refine ⟨_, _, _, ?_, ?_, context_addressSplit address cause.reason, ?_⟩
      · rw [read, hSplit]
        rfl
      · rfl
      · rfl
    · rw [Address.host, hSplit]

/-- An address with a zone, and two that differ from an address by one character. -/
theorem zoned_address_read :
    read "[fe80::1%eth0]:443".toList = .ok ("fe80::1%eth0".toList, "443".toList) ∧
    (∃ error given fields, read "[fe80::1%eth0]443".toList = .error (.own error given) ∧
      error.kind = .addressSplit ∧ error.context given = .object fields ∧
      Entries.get? fields "address".toList = some (.text "[fe80::1%eth0]443".toList)) ∧
    Address.host "fe80::1:443".toList = "fe80::1:443".toList := by
  have hRefused {address : Text} (h : ∃ cause, split address = .error cause) (host port : Text) :
      ¬Denotes address host port := by
    intro hDenotes
    obtain ⟨cause, hSplit⟩ := h
    cases hSplit.symm.trans (split_eq_ok_iff.mpr hDenotes)
  obtain ⟨hAccepted, -, -⟩ := read_eq_ok_iff_denotes "[fe80::1%eth0]:443".toList
  obtain ⟨-, -, hUnjoined⟩ := read_eq_ok_iff_denotes "[fe80::1%eth0]443".toList
  obtain ⟨-, -, hColons⟩ := read_eq_ok_iff_denotes "fe80::1:443".toList
  refine ⟨?_, ?_, ?_⟩
  · rw [hAccepted]
    exact @Denotes.bracketed "fe80::1%eth0".toList "443".toList ⟨by decide, by decide⟩
      ⟨⟨by decide, by decide⟩, by decide⟩
  · exact (hUnjoined (hRefused ⟨.textAfterBracket, rfl⟩)).1
  · exact (hColons (hRefused ⟨.colons, rfl⟩)).2

end RequestLog.Address

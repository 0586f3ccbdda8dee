import RequestLog.Proofs.Credentials
import RequestLog.Proofs.Text.Splits
import RequestLog.Proofs.Text.Utf8

/-!
# The payload of credentials

A payload is read as the text whose UTF-8 form it is, and as Latin-1 if it is no UTF-8. Either way
the text has a colon exactly if the payload has its octet. So a value of the scheme, in any case,
and the Base64 of a payload carries the two parts of the text around its first colon, and every value
that carries a user and a password is of this kind.
-/

namespace RequestLog.Credentials

/-- The name of the scheme in any case. -/
def IsSchemeName (t : Text) : Prop := t.map Char.toLower = "basic".toList

/-- The text is that of the payload in UTF-8, or in Latin-1 if it has none in UTF-8. -/
def ReadsAs (payload : Octets) (t : Text) : Prop :=
  payload = Utf8.encode t ∨ (∀ other, payload ≠ Utf8.encode other) ∧ t = Latin1.decode payload

variable {value name encoded user password t : Text} {payload : Octets} {found : Credentials}

theorem payloadText_eq_iff : payloadText payload = t ↔ ReadsAs payload t := by
  rw [payloadText, ReadsAs]
  cases hDecode : Utf8.decode? payload with
  | none =>
    have hForeign := Utf8.decode?_eq_none_iff.mp hDecode
    constructor
    · intro h
      exact Or.inr ⟨hForeign, h.symm⟩
    · rintro (h | ⟨-, h⟩)
      · exact absurd h (hForeign t)
      · exact h.symm
  | some other =>
    obtain rfl := Utf8.decode?_eq_some_iff.mp hDecode
    constructor
    · rintro rfl
      exact Or.inl rfl
    · rintro (h | ⟨hForeign, -⟩)
      · rw [h, Utf8.decode?_encode] at hDecode
        exact (Option.some.inj hDecode).symm
      · exact absurd rfl (hForeign other)

theorem colon_mem_of_readsAs (h : ReadsAs payload t) : ':' ∈ t ↔ 58 ∈ payload := by
  obtain rfl | ⟨-, rfl⟩ := h
  · exact (@Utf8.mem_encode_iff ':' (by decide) t).symm
  · exact @Latin1.mem_decode_iff 58 payload

theorem ofPayload?_eq_some_iff : ofPayload? payload = some ⟨user, password⟩ ↔
    ReadsAs payload (user ++ ':' :: password) ∧ ':' ∉ user := by
  rw [← payloadText_eq_iff, ← cut_eq_some_iff, ofPayload?]
  cases cut ':' (payloadText payload) with
  | mk before after =>
    cases after with
    | none => simp
    | some rest => simp

theorem ofPayload?_eq_none_iff : ofPayload? payload = none ↔ 58 ∉ payload := by
  rw [← colon_mem_of_readsAs (payloadText_eq_iff.mp rfl), ofPayload?]
  constructor
  · intro h
    split at h
    · cases h
    · next user hCut =>
      have hColon := notMem_cut_fst ':' (payloadText payload)
      rwa [hCut, ← eq_of_cut_eq_none hCut] at hColon
  · intro hColon
    rw [cut_of_notMem hColon]

theorem IsSchemeName.map_toLower (h : IsSchemeName name) :
    (name ++ [' ']).map Char.toLower = scheme := by
  rw [List.map_append, h]
  rfl

theorem afterScheme?_eq_some_iff : afterScheme? value = some encoded ↔
    ∃ name, IsSchemeName name ∧ value = name ++ ' ' :: encoded := by
  constructor
  · intro h
    unfold afterScheme? at h
    split at h
    · next hScheme =>
      cases h
      have hParts : (value.take scheme.length).map Char.toLower = "basic".toList ++ [' '] := hScheme
      obtain ⟨name, mark, hTaken, hName, hMark⟩ := List.map_eq_append_iff.mp hParts
      obtain ⟨c, rfl, hSpace⟩ := List.map_eq_singleton_iff.mp hMark
      refine ⟨name, hName, ?_⟩
      -- Nothing but a space is lowered to a space.
      rw [eq_of_toLower (by decide) hSpace] at hTaken
      rw [← List.singleton_append, ← List.append_assoc, ← hTaken, List.take_append_drop]
    · cases h
  · rintro ⟨name, hName, rfl⟩
    have hAfter := afterScheme?_append hName.map_toLower encoded
    rwa [List.append_assoc] at hAfter

theorem parse_of_isSchemeName (h : IsSchemeName name) (payload : Octets) :
    parse (name ++ ' ' :: Base64.encode payload) = .ok (ofPayload? payload) := by
  have hParse := parse_append_encode h.map_toLower payload
  rwa [List.append_assoc] at hParse

theorem exists_of_parse (h : parse value = .ok (some found)) :
    ∃ name encoded payload, IsSchemeName name ∧ value = name ++ ' ' :: encoded ∧
      Base64.decode? encoded = some payload ∧ ofPayload? payload = some found := by
  unfold parse at h
  split at h
  · cases h
  · next encoded hScheme =>
    split at h
    · obtain ⟨name, hName, hValue⟩ := afterScheme?_eq_some_iff.mp hScheme
      obtain ⟨payload, hDecode, hFound⟩ := Option.bind_eq_some_iff.mp (Except.ok.inj h)
      exact ⟨name, encoded, payload, hName, hValue, hDecode, hFound⟩
    · cases h

/-- A value that is written from a payload carries a user and a password exactly if the payload has a
colon: the parts of its text around the first one. In particular the value written from a user
without a colon and a password carries these. Every value that carries a user and a password is of
the scheme and holds the Base64 of such a payload. -/
theorem parse_reads_payload :
    (∀ name payload, IsSchemeName name →
      (58 ∉ payload → parse (name ++ ' ' :: Base64.encode payload) = .ok none) ∧
      (58 ∈ payload → ∃ user password,
        parse (name ++ ' ' :: Base64.encode payload) = .ok (some ⟨user, password⟩) ∧
        ReadsAs payload (user ++ ':' :: password) ∧ ':' ∉ user)) ∧
    (∀ name user password, IsSchemeName name → ':' ∉ user →
      parse (name ++ ' ' :: Base64.encode (Utf8.encode (user ++ ':' :: password))) =
        .ok (some ⟨user, password⟩)) ∧
    ∀ value user password, parse value = .ok (some ⟨user, password⟩) →
      ∃ name encoded payload, IsSchemeName name ∧ value = name ++ ' ' :: encoded ∧
        Base64.decode? encoded = some payload ∧ ReadsAs payload (user ++ ':' :: password) ∧
        ':' ∉ user := by
  refine ⟨?_, ?_, ?_⟩
  · intro name payload hName
    rw [parse_of_isSchemeName hName]
    constructor
    · intro hColon
      rw [ofPayload?_eq_none_iff.mpr hColon]
    · intro hColon
      cases hFound : ofPayload? payload with
      | none => exact absurd hColon (ofPayload?_eq_none_iff.mp hFound)
      | some found =>
        obtain ⟨hText, hUser⟩ := ofPayload?_eq_some_iff.mp hFound
        exact ⟨found.user, found.password, rfl, hText, hUser⟩
  · intro name user password hName hUser
    rw [parse_of_isSchemeName hName, ofPayload?_encode hUser]
  · intro value user password h
    obtain ⟨name, encoded, payload, hName, hValue, hDecode, hFound⟩ := exists_of_parse h
    obtain ⟨hText, hUser⟩ := ofPayload?_eq_some_iff.mp hFound
    exact ⟨name, encoded, payload, hName, hValue, hDecode, hText, hUser⟩

/-- A user that is no UTF-8, a payload without a colon, a password with one, and Base64 whose last
digit has a bit to spare. -/
theorem spelled_credentials_read :
    (∃ user password,
      parse ("bAsIc".toList ++ ' ' :: Base64.encode [0xE9, 58, 112]) =
        .ok (some ⟨user, password⟩) ∧
      ReadsAs [0xE9, 58, 112] (user ++ ':' :: password) ∧ ':' ∉ user) ∧
    parse ("bAsIc".toList ++ ' ' :: Base64.encode [0xE9, 112]) = .ok none ∧
    parse ("BASIC".toList ++ ' ' :: Base64.encode (Utf8.encode ("é".toList ++ ':' :: "p:w".toList))) =
      .ok (some ⟨"é".toList, "p:w".toList⟩) ∧
    ∃ name encoded payload, IsSchemeName name ∧ "Basic Oh==".toList = name ++ ' ' :: encoded ∧
      Base64.decode? encoded = some payload ∧ ReadsAs payload [':'] ∧ ':' ∉ ([] : Text) := by
  obtain ⟨hPayload, hTexts, hValue⟩ := parse_reads_payload
  have hMixed : IsSchemeName "bAsIc".toList := by rfl
  have hUpper : IsSchemeName "BASIC".toList := by rfl
  refine ⟨?_, ?_, ?_, ?_⟩
  · exact (hPayload _ [0xE9, 58, 112] hMixed).2 (by decide)
  · exact (hPayload _ [0xE9, 112] hMixed).1 (by decide)
  · exact hTexts _ _ _ hUpper (by decide)
  · exact hValue "Basic Oh==".toList [] [] (by rfl)

end RequestLog.Credentials

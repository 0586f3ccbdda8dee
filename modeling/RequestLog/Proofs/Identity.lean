import RequestLog.Identity
import RequestLog.Proofs.Text.Ascii

/-!
# Sources of the user

A user parameter with a value names the user, and nothing else is looked at. Where neither it nor
the URL names anybody the credentials do, and the only fault they can have is a payload with
characters beyond ASCII.
-/

namespace RequestLog

namespace Request

/-- Basic credentials whose payload has a character beyond ASCII. -/
def HasStrayCredentials (r : Request) : Prop :=
  ∃ value encoded, r.header? "authorization" = some value ∧
    Credentials.afterScheme? value = some encoded ∧ ∃ c ∈ encoded, 128 ≤ c.toNat

theorem not_hasStrayCredentials {r : Request}
    (h : ∀ value, r.header? "authorization" = some value → IsAscii value) :
    ¬r.HasStrayCredentials := by
  rintro ⟨value, encoded, hHeader, hScheme, c, hMem, hBeyond⟩
  unfold Credentials.afterScheme? at hScheme
  split at hScheme
  · cases hScheme
    have hAscii := h value hHeader c (List.mem_of_mem_drop hMem)
    omega
  · cases hScheme

theorem credentials_of_stray {r : Request} (h : r.HasStrayCredentials) :
    r.credentials = .error (.credentials .notAscii) := by
  obtain ⟨value, encoded, hHeader, hScheme, c, hMem, hBeyond⟩ := h
  have hNotAscii : (encoded.all fun c => c.toNat < 128) = false := by
    rw [List.all_eq_false]
    exact ⟨c, hMem, by simpa using hBeyond⟩
  simp only [credentials, hHeader, Credentials.parse, hScheme, hNotAscii]
  rfl

theorem credentials_of_not_stray {r : Request} (h : ¬r.HasStrayCredentials) :
    ∃ found, r.credentials = .ok found := by
  cases hHeader : r.header? "authorization" with
  | none => exact ⟨none, by simp only [credentials, hHeader]⟩
  | some value =>
    cases hScheme : Credentials.afterScheme? value with
    | none => exact ⟨none, by simp only [credentials, hHeader, Credentials.parse, hScheme]⟩
    | some encoded =>
      have hAscii : (encoded.all fun c => c.toNat < 128) = true := by
        rw [List.all_eq_true]
        intro c hMem
        rw [decide_eq_true_eq, ← Nat.not_le]
        intro hBeyond
        exact h ⟨value, encoded, hHeader, hScheme, c, hMem, hBeyond⟩
      refine ⟨(Base64.decode? encoded).bind Credentials.ofPayload?, ?_⟩
      simp only [credentials, hHeader, Credentials.parse, hScheme, hAscii, ↓reduceIte]

end Request

namespace Identity

variable {r : Request} {param : Text} {p : Uri.Parts}

theorem resolve_of_read {url : Text} (h : Uri.read url = .ok p) (r : Request) (param : Text) :
    resolve r url param = ofParts r param p := by
  rw [resolve, h]
  rfl

theorem ofParts_of_named {user : Text}
    (h : Query.firstValue? param (Query.items p.query) = some user) :
    ofParts r param p = .ok user := by
  have hNonempty : user.isEmpty = false := by
    unfold Query.firstValue? at h
    split at h
    · split at h
      · cases h
      · next hValue =>
        cases h
        simpa using hValue
    · cases h
  simp only [ofParts, urlUser, h, hNonempty]
  rfl

theorem ofParts_of_anonymous (h : Query.firstValue? param (Query.items p.query) = none)
    (hUser : p.username? = none) : ofParts r param p = credentialsUser r := by
  simp only [ofParts, urlUser, h, hUser]
  rfl

/-- Of the parts of a URL only the user part and the first value of the user parameter matter, and
of a request only the user of its credentials. -/
theorem ofParts_congr {r₁ r₂ : Request} {p₁ p₂ : Uri.Parts}
    (hUser : p₁.username? = p₂.username?)
    (hFirst : Query.firstValue? param (Query.items p₁.query) =
      Query.firstValue? param (Query.items p₂.query))
    (hCredentials : credentialsUser r₁ = credentialsUser r₂) :
    ofParts r₁ param p₁ = ofParts r₂ param p₂ := by
  have hNamed : urlUser param p₁ = urlUser param p₂ := by
    rw [urlUser, urlUser, hFirst, hUser]
  rw [ofParts, ofParts, hNamed, hCredentials]

end Identity

end RequestLog

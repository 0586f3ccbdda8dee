import Mathlib.Data.List.Forall2
import RequestLog.Proofs.Credentials
import RequestLog.Proofs.Redaction.User
import RequestLog.Proofs.Text.LowerCase

/-!
# Secrecy of passwords

Two requests are alike but for passwords when nothing tells them apart but the passwords of their
credentials and of the user part of their URL. Such requests have equal records, or equal faults in
place of records, and so equal lines, unless the configured request id is the authorization itself.
-/

namespace RequestLog

namespace Uri

/-- A location whose user part has a password: it stands between the first colon of the user part
and the last at sign. -/
def withPassword (user password host : Text) : Text := user ++ ':' :: password ++ '@' :: host

/-- Two sets of parts that nothing tells apart but the password of their user parts. -/
structure Parts.AlikeButPassword (p₁ p₂ : Parts) : Prop where
  scheme : p₁.scheme = p₂.scheme
  netloc : ∃ user password₁ password₂ host, ':' ∉ user ∧ '@' ∉ host ∧
    p₁.netloc = withPassword user password₁ host ∧ p₂.netloc = withPassword user password₂ host
  path : p₁.path = p₂.path
  query : p₁.query = p₂.query
  fragment : p₁.fragment = p₂.fragment

variable {p : Parts} {user password host : Text}

theorem username?_withPassword (hUser : ':' ∉ user) (hHost : '@' ∉ host)
    (h : p.netloc = withPassword user password host) : p.username? = some user := by
  simp only [Parts.username?, h, withPassword, cutLast_append_cons hHost, cut_append_cons hUser]

theorem isAnchored_withPassword (h : p.netloc = withPassword user password host) :
    p.IsAnchored := by
  left
  rw [h]
  exact List.append_ne_nil_of_right_ne_nil _ (List.cons_ne_nil _ _)

end Uri

namespace Headers

/-- A name of the field that carries credentials, in any case. -/
def IsAuthorization (name : Octets) : Prop :=
  (Latin1.decode name).map Char.toLower = "authorization".toList

instance (name : Octets) : Decidable (IsAuthorization name) :=
  inferInstanceAs (Decidable ((Latin1.decode name).map Char.toLower = "authorization".toList))

/-- The same field, or the credentials of one user with two passwords. -/
inductive FieldAlike : Octets × Octets → Octets × Octets → Prop
  | same (field : Octets × Octets) : FieldAlike field field
  | passwords {name : Octets} {user : Text} (hName : IsAuthorization name) (hUser : ':' ∉ user)
      (password₁ password₂ : Text) :
      FieldAlike (name, asciiOctets (Credentials.basic user password₁))
        (name, asciiOctets (Credentials.basic user password₂))

variable {headers₁ headers₂ : Headers}

theorem FieldAlike.name_eq {field₁ field₂ : Octets × Octets} (h : FieldAlike field₁ field₂) :
    field₁.1 = field₂.1 := by
  cases h with
  | same => rfl
  | passwords => rfl

theorem first?_cons (field : Octets × Octets) (rest : Headers) (name : Octets) :
    first? (field :: rest) name =
      if field.1 = name then some (Latin1.decode field.2) else first? rest name := by
  unfold first?
  rw [List.find?_cons]
  by_cases hName : field.1 = name
  · simp only [hName, beq_self_eq_true, ↓reduceIte, Option.map_some]
  · simp only [beq_eq_false_iff_ne.mpr hName, hName, ↓reduceIte]

/-- A lookup gives the same in two alike lists, unless it gives two passwords of one user. -/
theorem first?_alike (h : List.Forall₂ FieldAlike headers₁ headers₂) (name : Octets) :
    headers₁.first? name = headers₂.first? name ∨
      IsAuthorization name ∧ ∃ user password₁ password₂, ':' ∉ user ∧
        headers₁.first? name = some (Credentials.basic user password₁) ∧
        headers₂.first? name = some (Credentials.basic user password₂) := by
  induction h with
  | nil => exact Or.inl rfl
  | cons hField _ ih =>
    rw [first?_cons, first?_cons, ← hField.name_eq]
    split
    · next hName =>
      cases hField with
      | same => exact Or.inl rfl
      | passwords hAuthorization hUser password₁ password₂ =>
        right
        rw [Credentials.decode_basic, Credentials.decode_basic]
        exact ⟨hName ▸ hAuthorization, _, password₁, password₂, hUser, rfl, rfl⟩
    · exact ih

/-- Two lists of fields that are looked up alike for every name but the authorization's. -/
def AgreeElsewhere (headers₁ headers₂ : Headers) : Prop :=
  ∀ name, ¬IsAuthorization name → headers₁.first? name = headers₂.first? name

theorem agreeElsewhere_of_alike (h : List.Forall₂ FieldAlike headers₁ headers₂) :
    headers₁.AgreeElsewhere headers₂ := by
  intro name hName
  rcases first?_alike h name with hSame | ⟨hAuthorization, -⟩
  · exact hSame
  · exact absurd hAuthorization hName

/-- A name that is looked up is written small, so it is the authorization's only as it stands. -/
theorem lower_of_isAuthorization {name : Text} {octets : Octets}
    (hWire : wireName name = .ok octets) (h : IsAuthorization octets) :
    LowerCase.lower name = "authorization".toList := by
  rw [IsAuthorization, Latin1.decode_of_encode hWire, LowerCase.map_toLower_lower] at h
  exact h

theorem AgreeElsewhere.get?_eq (h : headers₁.AgreeElsewhere headers₂) {name : Text}
    (hName : LowerCase.lower name ≠ "authorization".toList) :
    headers₁.get? name = headers₂.get? name := by
  unfold get?
  cases hWire : wireName name with
  | error cause => rfl
  | ok octets =>
    have hOther : ¬IsAuthorization octets := fun hSame =>
      hName (lower_of_isAuthorization hWire hSame)
    change Except.ok (headers₁.first? octets) = Except.ok (headers₂.first? octets)
    rw [h octets hOther]

end Headers

namespace Request

theorem credentialsUser_of_basic {r : Request} {user password : Text} (hUser : ':' ∉ user)
    (h : r.header? "authorization" = some (Credentials.basic user password)) :
    Identity.credentialsUser r = .ok user := by
  rw [Identity.credentialsUser, credentials, h]
  simp only [Credentials.parse_basic hUser]
  rfl

/-- Nothing tells two requests apart but passwords, in their headers or in their URLs. -/
structure AlikeButPasswords (r₁ r₂ : Request) : Prop where
  method : r₁.method = r₂.method
  proto : r₁.proto = r₂.proto
  remoteAddress : r₁.remoteAddress = r₂.remoteAddress
  headers : List.Forall₂ Headers.FieldAlike r₁.headers r₂.headers
  url : r₁.url = r₂.url ∨ ∃ p₁ p₂, Uri.read r₁.url = .ok p₁ ∧ Uri.read r₂.url = .ok p₂ ∧
    p₁.AlikeButPassword p₂

namespace AlikeButPasswords

variable {r₁ r₂ : Request}

theorem credentialsUser_eq (h : AlikeButPasswords r₁ r₂) :
    Identity.credentialsUser r₁ = Identity.credentialsUser r₂ := by
  rcases Headers.first?_alike h.headers (Headers.asciiName "authorization") with
    hSame | ⟨-, user, password₁, password₂, hUser, hFirst₁, hFirst₂⟩
  · have hHeader : r₁.header? "authorization" = r₂.header? "authorization" := hSame
    rw [Identity.credentialsUser, Identity.credentialsUser, credentials, credentials, hHeader]
  · rw [credentialsUser_of_basic hUser hFirst₁, credentialsUser_of_basic hUser hFirst₂]

end AlikeButPasswords

end Request

namespace Builder

variable {σ : Type} {s : Settings} {r₁ r₂ : Request} {p₁ p₂ : Uri.Parts}

/-- Of the authorization a draft has the user at most, unless it is the configured request id. -/
theorem draftFrom_eq_of_agree (hMethod : r₁.method = r₂.method) (hProto : r₁.proto = r₂.proto)
    (hAddress : r₁.remoteAddress = r₂.remoteAddress)
    (hHeaders : r₁.headers.AgreeElsewhere r₂.headers)
    (hName : LowerCase.lower s.requestIdHeader ≠ "authorization".toList)
    (hUser : Identity.ofParts r₁ s.usernameParam p₁ = Identity.ofParts r₂ s.usernameParam p₂)
    (hUri : p₁.requestUri = p₂.requestUri) (o : Observer σ) (clock : Clock) :
    draftFrom s r₁ o clock p₁ = draftFrom s r₂ o clock p₂ := by
  have hReferrer : r₁.referrer = r₂.referrer :=
    congrArg (·.getD []) (hHeaders (Headers.asciiName "referer") (by decide))
  have hAgent : r₁.userAgent = r₂.userAgent :=
    congrArg (·.getD []) (hHeaders (Headers.asciiName "user-agent") (by decide))
  have hId : r₁.namedHeader s.requestIdHeader = r₂.namedHeader s.requestIdHeader := by
    rw [Request.namedHeader, Request.namedHeader, hHeaders.get?_eq hName]
  simp only [draftFrom, hUser, hId, hAddress, hMethod, hUri, hProto, hReferrer, hAgent]

theorem draftFrom_eq_of_alike (h : r₁.AlikeButPasswords r₂)
    (hName : LowerCase.lower s.requestIdHeader ≠ "authorization".toList)
    (hUser : p₁.username? = p₂.username?) (hPath : p₁.path = p₂.path) (hQuery : p₁.query = p₂.query)
    (o : Observer σ) (clock : Clock) :
    draftFrom s r₁ o clock p₁ = draftFrom s r₂ o clock p₂ := by
  have hFirst : Query.firstValue? s.usernameParam (Query.items p₁.query) =
      Query.firstValue? s.usernameParam (Query.items p₂.query) := by rw [hQuery]
  have hUri : p₁.requestUri = p₂.requestUri := by
    rw [Uri.Parts.requestUri, Uri.Parts.requestUri, hPath, hQuery]
  exact draftFrom_eq_of_agree h.method h.proto h.remoteAddress
    (Headers.agreeElsewhere_of_alike h.headers) hName
    (Identity.ofParts_congr hUser hFirst h.credentialsUser_eq) hUri o clock

theorem draft_eq_of_alike (h : r₁.AlikeButPasswords r₂)
    (hName : LowerCase.lower s.requestIdHeader ≠ "authorization".toList) (o : Observer σ)
    (clock : Clock) : draft s r₁ o clock = draft s r₂ o clock := by
  rcases h.url with hUrl | ⟨p₁, p₂, hRead₁, hRead₂, hAlike⟩
  · have hFrom : draftFrom s r₁ o clock = draftFrom s r₂ o clock := by
      funext parts
      exact draftFrom_eq_of_alike h hName rfl rfl rfl o clock
    rw [draft_eq, draft_eq, hUrl, hFrom]
  · obtain ⟨user, password₁, password₂, host, hUser, hHost, hNetloc₁, hNetloc₂⟩ := hAlike.netloc
    rw [Redaction.draft_of_isAnchored hRead₁ (Uri.isAnchored_withPassword hNetloc₁),
      Redaction.draft_of_isAnchored hRead₂ (Uri.isAnchored_withPassword hNetloc₂)]
    apply draftFrom_eq_of_alike h hName
    · rw [Redaction.username?_partsAfter, Redaction.username?_partsAfter,
        Uri.username?_withPassword hUser hHost hNetloc₁,
        Uri.username?_withPassword hUser hHost hNetloc₂]
    · exact hAlike.path
    · rw [Redaction.query_partsAfter, Redaction.query_partsAfter, hAlike.query]

/-- Passwords do not show in a record, nor in whether there is one, nor in a line. -/
theorem record_eq_of_alikeButPasswords (h : r₁.AlikeButPasswords r₂)
    (hName : LowerCase.lower s.requestIdHeader ≠ "authorization".toList) (o : Observer σ)
    (clock : Clock) :
    build s r₁ o clock = build s r₂ o clock ∧
    (∀ detail, buildError s r₁ o clock detail = buildError s r₂ o clock detail) ∧
    ∀ call format, (recordFor s r₁ o clock call).map (LogRecord.line format) =
      (recordFor s r₂ o clock call).map (LogRecord.line format) := by
  have hDraft := draft_eq_of_alike h hName o clock
  refine ⟨build_congr hDraft, ?_, ?_⟩
  · intro detail
    exact buildError_congr hDraft detail
  · intro call format
    rw [recordFor_congr hDraft call]

/-- The user part of the URL names nobody, so that the credentials do. -/
def credentialed (inUrl inHeader : Text) : Request where
  method := "GET".toList
  url := "http://:".toList ++ inUrl ++ "@h/notes?p=s&n=1".toList
  proto := Request.defaultProto
  remoteAddress := "192.0.2.1:80".toList
  headers := [(Headers.asciiName "accept", asciiOctets "*/*".toList),
    (Headers.asciiName "authorization", asciiOctets (Credentials.basic "dévé".toList inHeader))]

theorem credentialed_records_eq :
    (credentialed "s3cret".toList "p:w".toList).AlikeButPasswords
      (credentialed "a:b@c".toList "✓".toList) ∧
    build {} (credentialed "s3cret".toList "p:w".toList) ({ writer := () } : Observer Unit)
        ⟨⟨2024, 1, 15, 12, 0, 0, 0, some 0⟩, 0.5, 2.25⟩ =
      build {} (credentialed "a:b@c".toList "✓".toList) ({ writer := () } : Observer Unit)
        ⟨⟨2024, 1, 15, 12, 0, 0, 0, some 0⟩, 0.5, 2.25⟩ := by
  have hParts : (Uri.parts (credentialed "s3cret".toList "p:w".toList).url).AlikeButPassword
      (Uri.parts (credentialed "a:b@c".toList "✓".toList).url) :=
    { scheme := by decide +kernel
      netloc := ⟨[], "s3cret".toList, "a:b@c".toList, ['h'], by decide, by decide,
        by decide +kernel, by decide +kernel⟩
      path := by decide +kernel
      query := by decide +kernel
      fragment := by decide +kernel }
  have hAlike : (credentialed "s3cret".toList "p:w".toList).AlikeButPasswords
      (credentialed "a:b@c".toList "✓".toList) :=
    { method := by simp only [credentialed]
      proto := by simp only [credentialed]
      remoteAddress := by simp only [credentialed]
      headers := .cons (.same _) (.cons (.passwords (by decide) (by decide) _ _) .nil)
      url := Or.inr ⟨_, _, by decide +kernel, by decide +kernel, hParts⟩ }
  exact ⟨hAlike, (record_eq_of_alikeButPasswords (s := {}) hAlike (by decide +kernel) _ _).1⟩

end Builder

end RequestLog

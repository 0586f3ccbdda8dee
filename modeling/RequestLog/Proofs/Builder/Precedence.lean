import RequestLog.Proofs.Builder.Passwords
import RequestLog.Proofs.Entries
import RequestLog.Proofs.Record.Integrity

/-!
# Precedence of sources

The user of a record is the first name that is not empty among the user parameter, the user part of
the URL and the credentials, and the placeholder stands for nobody; it stands for an empty referrer
and user agent too, but never for a request id. Where the URL names the user, the authorization does
not matter to a record at all, nor to whether there is one.
-/

namespace RequestLog

/-- The user of an authorization that carries Basic credentials, and no name for any other. -/
def Credentials.userOf (authorization : Text) : Text :=
  match parse authorization with
  | .ok (some found) => found.user
  | _ => []

/-- The user part of a URL with its escapes read. -/
def Uri.Parts.userName (p : Parts) : Text := Percent.unescapeText (p.username?.getD [])

namespace Identity

variable {r : Request} {param user : Text} {p : Uri.Parts}

theorem eq_userOf_of_credentialsUser (h : credentialsUser r = .ok user) :
    user = Credentials.userOf ((r.header? "authorization").getD []) := by
  unfold credentialsUser Request.credentials at h
  cases hHeader : r.header? "authorization" with
  | none =>
    rw [hHeader] at h
    cases h
    decide
  | some value =>
    simp only [hHeader] at h
    rw [Option.getD_some, Credentials.userOf]
    cases hParse : Credentials.parse value with
    | error cause =>
      rw [hParse] at h
      cases h
    | ok found =>
      rw [hParse] at h
      cases h
      cases found <;> rfl

theorem urlUser_eq (param : Text) (p : Uri.Parts) : urlUser param p =
    firstNonEmpty [(Query.values param (Query.items p.query)).head?.getD [], p.userName] := by
  have hAlone := (firstNonEmpty_singleton p.userName).symm
  unfold urlUser Query.firstValue?
  cases Query.values param (Query.items p.query) with
  | nil => exact hAlone
  | cons value rest =>
    cases value with
    | nil => exact hAlone
    | cons c more => rfl

theorem ofParts_of_urlUser (h : urlUser param p ≠ []) : ofParts r param p = .ok (urlUser param p) :=
  if_neg (by simpa using h)

/-- Who made a request is the first who is named by the parameter, the URL or the credentials. -/
theorem eq_firstNonEmpty_of_ofParts (h : ofParts r param p = .ok user) :
    user = firstNonEmpty [(Query.values param (Query.items p.query)).head?.getD [], p.userName,
      Credentials.userOf ((r.header? "authorization").getD [])] := by
  refine Eq.trans ?_ (firstNonEmpty_concat [_, p.userName] _).symm
  rw [← urlUser_eq]
  by_cases hNamed : urlUser param p = []
  · have hCredentials : credentialsUser r = .ok user := by
      rw [← h, ofParts, hNamed]
      rfl
    rw [hNamed, eq_userOf_of_credentialsUser hCredentials]
    exact (firstNonEmpty_singleton _).symm
  · rw [ofParts_of_urlUser hNamed] at h
    rw [firstNonEmpty_cons_of_ne hNamed, ← Except.ok.inj h]

end Identity

namespace Headers

def withoutAuthorization (headers : Headers) : Headers :=
  headers.filter fun field => ¬IsAuthorization field.1

theorem first?_withoutAuthorization (headers : Headers) {name : Octets}
    (hName : ¬IsAuthorization name) :
    headers.withoutAuthorization.first? name = headers.first? name := by
  unfold withoutAuthorization
  induction headers with
  | nil => rfl
  | cons field rest ih =>
    by_cases hField : IsAuthorization field.1
    · have hOther : field.1 ≠ name := fun hSame => hName (hSame ▸ hField)
      rw [List.filter_cons_of_neg (by simpa using hField), first?_cons, if_neg hOther, ih]
    · rw [List.filter_cons_of_pos (by simpa using hField), first?_cons, first?_cons, ih]

theorem agreeElsewhere_of_withoutAuthorization {headers₁ headers₂ : Headers}
    (h : headers₁.withoutAuthorization = headers₂.withoutAuthorization) :
    headers₁.AgreeElsewhere headers₂ := by
  intro name hName
  rw [← first?_withoutAuthorization headers₁ hName, h, first?_withoutAuthorization headers₂ hName]

end Headers

namespace Request

theorem firstSays_of_namedHeader {r : Request} {name value : Text}
    (h : r.namedHeader name = .ok value) :
    ∃ octets, Headers.wireName name = .ok octets ∧
      FirstSays Latin1.decode octets r.headers value := by
  unfold namedHeader Headers.get? at h
  cases hWire : Headers.wireName name with
  | error cause =>
    rw [hWire] at h
    cases h
  | ok octets =>
    rw [hWire] at h
    cases h
    exact ⟨octets, rfl, Headers.firstSays_iff_first?.mpr rfl⟩

/-- Nothing tells two requests apart but their authorizations. -/
structure AlikeButAuthorization (r₁ r₂ : Request) : Prop where
  method : r₁.method = r₂.method
  url : r₁.url = r₂.url
  proto : r₁.proto = r₂.proto
  remoteAddress : r₁.remoteAddress = r₂.remoteAddress
  headers : r₁.headers.withoutAuthorization = r₂.headers.withoutAuthorization

/-- A request whose redacted URL has a user parameter or a user part that is not empty. -/
def IsNamedByUrl (s : Settings) (r : Request) : Prop :=
  ∃ redacted p named,
    Redaction.redact s.redactedParams s.redactionMarker r.url = .ok redacted ∧
    Uri.read redacted = .ok p ∧ FirstSays id s.usernameParam (Query.items p.query) named ∧
    (named ≠ [] ∨ p.userName ≠ [])

end Request

namespace Builder

variable {σ : Type} {s : Settings}

/-- Where the user, the referrer, the user agent and the request id of a record come from. -/
structure DrawsFrom (s : Settings) (r : Request) (p : Uri.Parts) (record : AccessRecord) :
    Prop where
  user : ∃ named authorization,
    FirstSays id s.usernameParam (Query.items p.query) named ∧
    FirstSays Latin1.decode (Headers.asciiName "authorization") r.headers authorization ∧
    Identity.IsFirstNonEmpty
      [named, p.userName, Credentials.userOf authorization, s.placeholder] record.user
  referrer : ∃ value, FirstSays Latin1.decode (Headers.asciiName "referer") r.headers value ∧
    Identity.IsFirstNonEmpty [value, s.placeholder] record.referrer
  userAgent : ∃ value, FirstSays Latin1.decode (Headers.asciiName "user-agent") r.headers value ∧
    Identity.IsFirstNonEmpty [value, s.placeholder] record.userAgent
  requestId : ∃ name, Headers.wireName s.requestIdHeader = .ok name ∧
    FirstSays Latin1.decode name r.headers record.requestId

theorem DrawsFrom.nonempty {r : Request} {p : Uri.Parts} {record : AccessRecord}
    (h : DrawsFrom s r p record) :
    record.user ≠ [] ∧ record.referrer ≠ [] ∧ record.userAgent ≠ [] := by
  obtain ⟨_, _, -, -, hUser⟩ := h.user
  obtain ⟨_, -, hReferrer⟩ := h.referrer
  obtain ⟨_, -, hAgent⟩ := h.userAgent
  exact ⟨hUser.1, hReferrer.1, hAgent.1⟩

theorem exists_firstSays_or_placeholder (s : Settings) (headers : Headers) (name : Octets) :
    ∃ value, FirstSays Latin1.decode name headers value ∧
      Identity.IsFirstNonEmpty [value, s.placeholder]
        (Identity.firstNonEmpty [(headers.first? name).getD [], s.placeholder]) :=
  ⟨_, Headers.firstSays_iff_first?.mpr rfl,
    Identity.isFirstNonEmpty_concat s.placeholder_ne [(headers.first? name).getD []]⟩

theorem drawsFrom_of_build {r : Request} {o : Observer σ} {clock : Clock} {record : AccessRecord}
    (h : build s r o clock = .ok record) :
    ∃ redacted p, Redaction.redact s.redactedParams s.redactionMarker r.url = .ok redacted ∧
      Uri.read redacted = .ok p ∧ DrawsFrom s r p record := by
  obtain ⟨redacted, user, p, requestId, elapsed, hRedact, hResolve, hRead, hId, -, hDraft⟩ :=
    draft_eq_ok_iff.mp (build_eq_ok_iff.mp h)
  rw [Identity.resolve_of_read hRead] at hResolve
  refine ⟨redacted, p, hRedact, hRead, ?_, ?_, ?_, ?_⟩
  · refine ⟨_, _, Query.firstSays_iff_values.mpr rfl, Headers.firstSays_iff_first?.mpr rfl, ?_⟩
    have hUser : record.user = Identity.firstNonEmpty [user, s.placeholder] :=
      congrArg Record.Draft.user hDraft
    rw [hUser, Identity.eq_firstNonEmpty_of_ofParts hResolve, ← Identity.firstNonEmpty_concat]
    exact Identity.isFirstNonEmpty_concat s.placeholder_ne [_, _, _]
  · have hReferrer : record.referrer = Identity.firstNonEmpty [r.referrer, s.placeholder] :=
      congrArg Record.Draft.referrer hDraft
    rw [hReferrer]
    exact exists_firstSays_or_placeholder s r.headers _
  · have hAgent : record.userAgent = Identity.firstNonEmpty [r.userAgent, s.placeholder] :=
      congrArg Record.Draft.userAgent hDraft
    rw [hAgent]
    exact exists_firstSays_or_placeholder s r.headers _
  · have hRequestId : record.requestId = requestId := congrArg Record.Draft.requestId hDraft
    rw [hRequestId]
    exact Request.firstSays_of_namedHeader hId

theorem draft_eq_of_isNamedByUrl {r₁ r₂ : Request} (h : r₁.AlikeButAuthorization r₂)
    (hNamed : r₁.IsNamedByUrl s)
    (hName : LowerCase.lower s.requestIdHeader ≠ "authorization".toList) (o : Observer σ)
    (clock : Clock) : draft s r₁ o clock = draft s r₂ o clock := by
  obtain ⟨redacted, p, named, hRedact, hRead, hFirst, hUser⟩ := hNamed
  have hUrlUser : Identity.urlUser s.usernameParam p ≠ [] := by
    rw [Identity.urlUser_eq, Query.firstSays_iff_values.mp hFirst, ne_eq,
      Identity.firstNonEmpty_eq_nil_iff]
    intro hNone
    rcases hUser with hParam | hPart
    · exact hParam (hNone named (by simp))
    · exact hPart (hNone p.userName (by simp))
  -- Both requests are named by their URL, so neither draft looks at credentials.
  have hParts : Identity.ofParts r₁ s.usernameParam p = Identity.ofParts r₂ s.usernameParam p := by
    rw [Identity.ofParts_of_urlUser hUrlUser, Identity.ofParts_of_urlUser hUrlUser]
  rw [draft_eq, draft_eq, ← h.url, hRedact]
  change Uri.read redacted >>= _ = Uri.read redacted >>= _
  rw [hRead]
  exact draftFrom_eq_of_agree h.method h.proto h.remoteAddress
    (Headers.agreeElsewhere_of_withoutAuthorization h.headers) hName hParts rfl o clock

/-- The fields of a record are drawn from their sources in order, and where the URL names the user
the authorization does not matter. -/
theorem record_by_precedence (s : Settings) (o : Observer σ) (clock : Clock) :
    (∀ (r : Request) (call : LogCall) (record : LogRecord),
      recordFor s r o clock call = .ok record →
      ∃ redacted p, Redaction.redact s.redactedParams s.redactionMarker r.url = .ok redacted ∧
        Uri.read redacted = .ok p ∧ DrawsFrom s r p record.base ∧ record.base.user ≠ [] ∧
        record.base.referrer ≠ [] ∧ record.base.userAgent ≠ []) ∧
    ∀ r₁ r₂ : Request, r₁.AlikeButAuthorization r₂ → r₁.IsNamedByUrl s →
      LowerCase.lower s.requestIdHeader ≠ "authorization".toList →
      build s r₁ o clock = build s r₂ o clock ∧
      ∀ detail, buildError s r₁ o clock detail = buildError s r₂ o clock detail := by
  constructor
  · intro r call record hRecord
    obtain ⟨base, hBuild, rfl⟩ := recordFor_eq_ok_iff.mp hRecord
    obtain ⟨redacted, p, hRedact, hRead, hDraws⟩ := drawsFrom_of_build hBuild
    rw [base_present]
    exact ⟨redacted, p, hRedact, hRead, hDraws, hDraws.nonempty⟩
  · intro r₁ r₂ hAlike hNamed hName
    have hDraft := draft_eq_of_isNamedByUrl hAlike hNamed hName o clock
    exact ⟨build_congr hDraft, buildError_congr hDraft⟩

/-- The first value of the user parameter is empty, and so is the first referrer. -/
def guestRequest (authorization : Headers) : Request where
  method := "GET".toList
  url := Redaction.guestUrl
  proto := Request.defaultProto
  remoteAddress := "192.0.2.1:80".toList
  headers := authorization ++ [(Headers.asciiName "referer", []),
    (Headers.asciiName "referer", Headers.asciiName "http://late/"),
    (Headers.asciiName "user-agent", Headers.asciiName "curl/8")]

def strayAuthorization : Headers :=
  [(Headers.asciiName "authorization", Headers.asciiName "Basic é")]

def blankSettings : Settings := { placeholder := "none".toList, requestIdHeader := "X-Id".toList }

theorem guest_drawn_in_order :
    Settings.ofFields [("placeholder".toList, .text "none".toList),
      ("request_id_header".toList, .text "X-Id".toList)] = .ok blankSettings ∧
    (∃ record, recordFor blankSettings (guestRequest strayAuthorization) AccessRecord.unwritten
        AccessRecord.stillClock .access = .ok record ∧
      record.base.user = "alé".toList ∧ record.base.referrer = "none".toList ∧
      record.base.userAgent = "curl/8".toList ∧ record.base.requestId = []) ∧
    (guestRequest strayAuthorization).AlikeButAuthorization (guestRequest []) ∧
    (guestRequest strayAuthorization).IsNamedByUrl blankSettings ∧
    build blankSettings (guestRequest strayAuthorization) AccessRecord.unwritten
        AccessRecord.stillClock =
      build blankSettings (guestRequest []) AccessRecord.unwritten AccessRecord.stillClock := by
  obtain ⟨hDrawn, hSame⟩ :=
    record_by_precedence blankSettings AccessRecord.unwritten AccessRecord.stillClock
  have hRedact : Redaction.redact blankSettings.redactedParams blankSettings.redactionMarker
      Redaction.guestUrl = .ok "http://al%C3%A9:pw@h/x?k=1&p=%5BREDACTED%5D&u=&u=b#f".toList := by
    decide +kernel
  have hRead : Uri.read "http://al%C3%A9:pw@h/x?k=1&p=%5BREDACTED%5D&u=&u=b#f".toList =
      .ok (Uri.parts "http://al%C3%A9:pw@h/x?k=1&p=%5BREDACTED%5D&u=&u=b#f".toList) := by
    decide +kernel
  have hAlike : (guestRequest strayAuthorization).AlikeButAuthorization (guestRequest []) :=
    ⟨rfl, rfl, rfl, rfl, by decide +kernel⟩
  have hNamed : (guestRequest strayAuthorization).IsNamedByUrl blankSettings :=
    ⟨_, _, _, hRedact, hRead, Query.firstSays_iff_values.mpr rfl, Or.inr (by decide +kernel)⟩
  refine ⟨by decide +kernel, ?_, hAlike, hNamed, (hSame _ _ hAlike hNamed (by decide +kernel)).1⟩
  have hMade : (recordFor blankSettings (guestRequest strayAuthorization) AccessRecord.unwritten
      AccessRecord.stillClock .access).toOption.isSome = true := by
    decide +kernel
  obtain ⟨record, hRecord⟩ := Except.exists_ok_of_isSome hMade
  obtain ⟨redacted, p, hRedacted, hAfter, hDraws, -⟩ := hDrawn _ _ _ hRecord
  obtain rfl := Except.ok.inj (hRedact.symm.trans hRedacted)
  obtain rfl := Except.ok.inj (hRead.symm.trans hAfter)
  refine ⟨record, hRecord, ?_, ?_, ?_, ?_⟩
  · obtain ⟨named, authorization, hFirst, hAuthorization, hUser⟩ := hDraws.user
    obtain rfl := Query.firstSays_iff_values.mp hFirst
    obtain rfl := Headers.firstSays_iff_first?.mp hAuthorization
    rw [← (Identity.isFirstNonEmpty_iff.mp hUser).2]
    decide +kernel
  · obtain ⟨referrer, hFirst, hReferrer⟩ := hDraws.referrer
    obtain rfl := Headers.firstSays_iff_first?.mp hFirst
    rw [← (Identity.isFirstNonEmpty_iff.mp hReferrer).2]
    decide +kernel
  · obtain ⟨agent, hFirst, hAgent⟩ := hDraws.userAgent
    obtain rfl := Headers.firstSays_iff_first?.mp hFirst
    rw [← (Identity.isFirstNonEmpty_iff.mp hAgent).2]
    decide +kernel
  · obtain ⟨name, hName, hFirst⟩ := hDraws.requestId
    have hWire : Headers.wireName blankSettings.requestIdHeader =
        .ok (Headers.asciiName "x-id") := by
      decide +kernel
    obtain rfl := Except.ok.inj (hWire.symm.trans hName)
    rw [← Headers.firstSays_iff_first?.mp hFirst]
    decide +kernel

end Builder

end RequestLog

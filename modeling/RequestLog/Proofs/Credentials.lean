import RequestLog.Credentials
import RequestLog.Proofs.Text.Ascii
import RequestLog.Proofs.Text.Base64

/-!
# Reading written credentials back

A value of a scheme in any case and the Base64 of a payload is read as that payload. In particular
the value that a client writes for a user and a password gives both back, provided that the user has
no colon; the password may have any.
-/

namespace RequestLog.Credentials

variable {user : Text}

/-- The value that carries a user and a password. -/
def basic (user password : Text) : Text :=
  "Basic ".toList ++ Base64.encode (Utf8.encode (user ++ ':' :: password))

theorem afterScheme?_append {spelling : Text} (h : spelling.map Char.toLower = scheme)
    (encoded : Text) : afterScheme? (spelling ++ encoded) = some encoded := by
  have hLength : scheme.length = spelling.length := by rw [← h, List.length_map]
  rw [afterScheme?, hLength, List.take_left, List.drop_left, if_pos h]

theorem parse_append_encode {spelling : Text} (h : spelling.map Char.toLower = scheme)
    (payload : Octets) :
    parse (spelling ++ Base64.encode payload) = .ok (ofPayload? payload) := by
  have hAscii : ((Base64.encode payload).all fun c => c.toNat < 128) = true := by
    rw [List.all_eq_true]
    intro c hc
    exact decide_eq_true (Base64.toNat_lt_of_mem_encode hc)
  simp only [parse, afterScheme?_append h, hAscii, ↓reduceIte, Base64.decode?_encode,
    Option.bind_some]

theorem ofPayload?_encode (h : ':' ∉ user) (password : Text) :
    ofPayload? (Utf8.encode (user ++ ':' :: password)) = some ⟨user, password⟩ := by
  rw [ofPayload?, payloadText, Utf8.decode?_encode, Option.getD_some, cut_append_cons h]

theorem parse_basic (h : ':' ∉ user) (password : Text) :
    parse (basic user password) = .ok (some ⟨user, password⟩) := by
  have hScheme : "Basic ".toList.map Char.toLower = scheme := by decide
  have hParse := parse_append_encode hScheme (Utf8.encode (user ++ ':' :: password))
  rwa [ofPayload?_encode h] at hParse

theorem isAscii_basic (user password : Text) : IsAscii (basic user password) := by
  apply IsAscii.append
  · intro c hc
    have hAll : "Basic ".toList.all (fun c => c.toNat < 128) = true := by decide
    exact of_decide_eq_true (List.all_eq_true.mp hAll c hc)
  · intro c hc
    exact Base64.toNat_lt_of_mem_encode hc

theorem decode_basic (user password : Text) :
    Latin1.decode (asciiOctets (basic user password)) = basic user password :=
  decode_asciiOctets (isAscii_basic user password)

end RequestLog.Credentials

import RequestLog.Text.Base64
import RequestLog.Text.Utf8
import RequestLog.Text.Latin1

/-!
# Credentials

The user and password of a Basic authorization: the scheme in any case, one space, and the base64 of
a text whose first colon ends the user. A payload that is not UTF-8 is read as Latin-1. Anything
else carries no credentials, but a payload with characters beyond ASCII is a fault.
-/

namespace RequestLog

structure Credentials where
  user : Text
  password : Text
  deriving DecidableEq, Repr

namespace Credentials

def scheme : Text := "basic ".toList

/-- The rest of a value that begins with the scheme. Only ASCII letters have these small forms. -/
def afterScheme? (value : Text) : Option Text :=
  if (value.take scheme.length).map Char.toLower = scheme then some (value.drop scheme.length)
  else none

def payloadText (payload : Octets) : Text :=
  (Utf8.decode? payload).getD (Latin1.decode payload)

def ofPayload? (payload : Octets) : Option Credentials :=
  match cut ':' (payloadText payload) with
  | (user, some password) => some ⟨user, password⟩
  | (_, none) => none

inductive Fault where
  | notAscii
  deriving DecidableEq, Repr

def Fault.message : Fault → Text
  | .notAscii => "string argument should contain only ASCII characters".toList

def parse (value : Text) : Except Fault (Option Credentials) :=
  match afterScheme? value with
  | none => .ok none
  | some encoded =>
    if encoded.all fun c => c.toNat < 128 then .ok ((Base64.decode? encoded).bind ofPayload?)
    else .error .notAscii

end Credentials

end RequestLog

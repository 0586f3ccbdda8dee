import RequestLog.Uri.Reference

/-!
# Host header values

Which values of a Host header may become the network location of a request: a registered name or a
bracketed address, with an optional port of decimal digits up to 65535. Zones are not admitted, and
neither is a user part.
-/

namespace RequestLog.Uri.HostHeader

def isNameChar (c : Char) : Bool :=
  c.isAlphanum || "._~%!$&'()*+,;=-".toList.contains c

/-- An address that the location check accepts, in characters of its own form only. -/
def isAddress (t : Text) : Bool :=
  if t.head? = some 'v' then
    isFuture t && t.all fun c => (isNameChar c && c != '%') || c == ':'
  else IpAddress.isV6 t && t.all fun c => Digits.isHex c || c == ':' || c == '.'

def isPort (t : Text) : Bool :=
  !t.isEmpty && t.all Char.isDigit && Digits.value t ≤ 65535

def isPortSuffix : Text → Bool
  | [] => true
  | c :: port => c == ':' && isPort port

def isUsable (host : Text) : Bool :=
  match host with
  | '[' :: inside =>
    match cut ']' inside with
    | (address, some suffix) => isAddress address && isPortSuffix suffix
    | (_, none) => false
  | _ =>
    let name := host.takeWhile isNameChar
    !name.isEmpty && isPortSuffix (host.dropWhile isNameChar)

end RequestLog.Uri.HostHeader

import RequestLog.Redaction

/-!
# Identity

Who made a request: the value of the user parameter, or else the user part of the URL, or else the
user of the credentials. Credentials are looked at only when the URL names nobody.
-/

namespace RequestLog.Identity

def firstNonEmpty : List Text → Text
  | [] => []
  | t :: rest => if t.isEmpty then firstNonEmpty rest else t

/-- The name that the parts of a URL give, empty if they give none. -/
def urlUser (param : Text) (parts : Uri.Parts) : Text :=
  match Query.firstValue? param (Query.items parts.query) with
  | some value => value
  | none => Percent.unescapeText (parts.username?.getD [])

def credentialsUser (r : Request) : Except Fault Text :=
  r.credentials.map fun found => (found.map Credentials.user).getD []

def ofParts (r : Request) (param : Text) (parts : Uri.Parts) : Except Fault Text :=
  let named := urlUser param parts
  if named.isEmpty then credentialsUser r else .ok named

/-- The user of a request whose URL is given apart, so that it can be a redacted one. -/
def resolve (r : Request) (url param : Text) : Except Fault Text :=
  Uri.read url >>= ofParts r param

def defaultParam : Text := ['u']

end RequestLog.Identity

import RequestLog.Request.Scope

/-!
# Requests

The parts of a request that its record is made from. The URL is kept as text and split when a part
of it is read, so that a request with an unreadable URL exists and its record does not.
-/

namespace RequestLog

structure Request where
  method : Text
  url : Text
  proto : Text
  remoteAddress : Text
  headers : Headers
  deriving DecidableEq, Repr

namespace Request

def defaultProto : Text := "HTTP/1.1".toList

/-- A request from its scope; the first key that is missing is the fault. -/
def ofScope (scope : Scope) : Except Fault Request := do
  let path ← scope.escapedPath
  let query ← scope.escapedQuery
  let method ← Scope.require "method" scope.method
  let headers ← Scope.require "headers" scope.headers
  let scheme := scope.scheme.getD Scope.defaultScheme
  let location ← scope.location? scheme headers
  return {
    method := method
    url := Scope.assemble scheme location path query
    proto := scope.proto
    remoteAddress := scope.remoteAddress
    headers := headers }

def ofTexts (method url proto remoteAddress : Text) (headers : List (Text × Text)) :
    Except Fault Request :=
  match Headers.ofTexts headers with
  | .ok headers => .ok ⟨method, url, proto, remoteAddress, headers⟩
  | .error cause => .error (.unencodable cause)

def header? (r : Request) (name : String) : Option Text :=
  r.headers.first? (Headers.asciiName name)

def referrer (r : Request) : Text := (r.header? "referer").getD []

def userAgent (r : Request) : Text := (r.header? "user-agent").getD []

/-- The value of a field whose name is configured, verbatim, and the empty text without one. -/
def namedHeader (r : Request) (name : Text) : Except Fault Text :=
  match r.headers.get? name with
  | .ok value => .ok (value.getD [])
  | .error cause => .error (.unencodable cause)

def credentials (r : Request) : Except Fault (Option Credentials) :=
  match r.header? "authorization" with
  | none => .ok none
  | some value =>
    match Credentials.parse value with
    | .ok found => .ok found
    | .error cause => .error (.credentials cause)

end Request

def Uri.read (url : Text) : Except RequestLog.Fault Uri.Parts :=
  match Uri.split url with
  | .ok parts => .ok parts
  | .error cause => .error (.uri cause)

/-- The host and port of an address; the fault of one that cannot be split names it. -/
def Address.read (address : Text) : Except RequestLog.Fault (Text × Text) :=
  match Address.split address with
  | .ok found => .ok found
  | .error cause => .error (.addressSplit address cause.reason)

end RequestLog

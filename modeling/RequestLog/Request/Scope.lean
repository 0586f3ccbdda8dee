import RequestLog.Fault
import RequestLog.Headers
import RequestLog.Text.Query
import RequestLog.Uri.HostHeader

/-!
# Request scopes

What a gateway hands over at the beginning of a request, any key of which may be missing. From it
come the escaped path and query of the request line and the URL. The location of the URL is the
usable Host header or else the server's name; without either the URL is path and query.
-/

namespace RequestLog

open Digits

structure Server where
  host : Text
  port : Address.Port
  deriving DecidableEq, Repr

structure Scope where
  kind : Option Text := none
  httpVersion : Option Datum := none
  method : Option Text := none
  scheme : Option Text := none
  server : Option Server := none
  rootPath : Option Text := none
  path : Option Text := none
  rawPath : Option Octets := none
  queryString : Option Octets := none
  headers : Option Headers := none
  client : Option Server := none
  deriving DecidableEq, Repr

namespace Scope

def require {α : Type} (key : String) (value : Option α) : Except Fault α :=
  value.elim (.error (.missingKey key.toList)) .ok

def pathSafe : Text := "/$&+,:;=@".toList

def querySafe : Text := "/?:@!$&'()*+,;=%".toList

/-- The path as the client escaped it, its own escapes kept, and without a query. -/
def escapeRawPath (raw : Octets) : Text :=
  Percent.escape (pathSafe ++ ['%']) (cut 63 raw).1

def escapePath (path : Text) : Text := Percent.escape pathSafe (Utf8.encode path)

/-- A path that the mount point does not begin is below it. -/
def mounted (rootPath path : Text) : Text :=
  if rootPath.isPrefixOf path then path else rootPath ++ path

/-- The request path in escaped form, from the octets of the wire if they are there. -/
def escapedPath (scope : Scope) : Except Fault Text :=
  match scope.rawPath with
  | some (b :: rest) => .ok (escapeRawPath (b :: rest))
  | _ =>
    (require "path" scope.path).map fun path =>
      escapePath (mounted (scope.rootPath.getD []) path)

/-- The query with everything escaped that may not stand on a request line. -/
def escapeQuery (query : Text) : Except Fault Text :=
  match Latin1.encode query with
  | .ok octets => .ok (Percent.escape querySafe octets)
  | .error cause => .error (.unencodable cause)

def escapedQuery (scope : Scope) : Except Fault Text :=
  escapeQuery (Latin1.decode (scope.queryString.getD []))

/-- The host and port of a peer as one address; no peer has the empty address. -/
def remoteAddress (scope : Scope) : Text :=
  match scope.client with
  | some peer => Address.join peer.host peer.port
  | none => []

def proto (scope : Scope) : Text :=
  "HTTP/".toList ++ ((scope.httpVersion.map Datum.plain).getD "1.1".toList)

def defaultPort? (scheme : Text) : Option Int :=
  if scheme = "http".toList ∨ scheme = "ws".toList then some 80
  else if scheme = "https".toList ∨ scheme = "wss".toList then some 443
  else none

def bracketed (host : Text) : Text :=
  if host.contains ':' && host.head? != some '[' then '[' :: host ++ [']'] else host

/-- The location named by the server; the default port of the scheme is left out. -/
def serverLocation (scheme : Text) (server : Server) : Except Fault Text :=
  match defaultPort? scheme with
  | none => .error (.missingKey scheme)
  | some port =>
    if server.port = .number port then .ok (bracketed server.host)
    else .ok (bracketed server.host ++ ':' :: server.port.text)

def usableHost? (headers : Headers) : Option Text :=
  match headers.first? (Headers.asciiName "host") with
  | some host => if Uri.HostHeader.isUsable host then some host else none
  | none => none

def location? (scope : Scope) (scheme : Text) (headers : Headers) : Except Fault (Option Text) :=
  match usableHost? headers with
  | some host => .ok (some host)
  | none =>
    match scope.server with
    | some server => (serverLocation scheme server).map some
    | none => .ok none

/-- Characters of a path that would end it, and the backslash, are escaped once more. -/
def guardPath (path : Text) : Text :=
  path.flatMap fun c =>
    if c = '?' then "%3F".toList else if c = '#' then "%23".toList
    else if c = '\\' then "%5C".toList else [c]

/-- Without a location a second leading slash must not begin one. -/
def guardSlashes (path : Text) : Text :=
  match path with
  | '/' :: '/' :: rest => "/%2F".toList ++ rest
  | _ => path

/-- The URL of a request, not yet split: with a location it is put together from its parts, without
one it is path and query. -/
def assemble (scheme : Text) (location : Option Text) (path query : Text) : Text :=
  let path := guardPath path
  match location with
  | some location => Uri.unsplit ⟨scheme, location, path, query, []⟩
  | none => guardSlashes path ++ Uri.introduced '?' query

def defaultScheme : Text := "http".toList

end Scope

end RequestLog

import RequestLog.AccessLog
import RequestLog.Journal

/-!
# The service

A small service behind the access log: `/health` tells that it is healthy, the same path with
slashes behind it leads there, and there is nothing else. Leading there takes a query that is UTF-8.
A request that fails before any response was begun is answered for by a plain error response around
the log.
-/

namespace RequestLog.Service

open Digits

def version : Text := "1.0.0".toList

structure Answer where
  status : Int
  fields : List (Text × Text)
  body : Text
  deriving DecidableEq, Repr

def wire (fields : List (Text × Text)) : Headers :=
  fields.map fun field => (Utf8.encode field.1, Utf8.encode field.2)

def lengthField (body : Text) : Text × Text :=
  ("content-length".toList, decimal (Utf8.encode body).length)

def object (status : Int) (fields : List (Text × Text)) (body : List (Text × Text)) : Answer :=
  let body := Line.jsonObject (body.map fun entry => (entry.1, .text entry.2))
  ⟨status, fields ++ [lengthField body, ("content-type".toList, "application/json".toList)], body⟩

def failure (status : Int) (fields : List (Text × Text)) (detail : String) : Answer :=
  object status fields [("detail".toList, detail.toList)]

def healthy : Answer :=
  object 200 [] [("status".toList, "healthy".toList), ("version".toList, version)]

def notFound : Answer := failure 404 [] "Not Found"

def methodNotAllowed : Answer :=
  failure 405 [("allow".toList, "GET".toList)] "Method Not Allowed"

def locationSafe : Text := ":/%#?=@[]!$&'()*+,;".toList

def redirect (url : Text) : Answer :=
  ⟨307, [lengthField [], ("location".toList, Percent.escape locationSafe (Utf8.encode url))], []⟩

def healthPath : Text := "/health".toList

/-- Does a path lead to the health answer? A line break behind it does not count. -/
def isHealth (path : Text) : Bool := path == healthPath || path == healthPath ++ ['\n']

/-- The path below the mount point, and the whole path if it is not below it. -/
def localPath (rootPath path : Text) : Text :=
  if rootPath.isPrefixOf path then
    match path.drop rootPath.length with
    | [] => []
    | '/' :: rest => '/' :: rest
    | _ => path
  else path

def trimSlashes (path : Text) : Text := (path.reverse.dropWhile (· == '/')).reverse

/-- The URL of the request with another path; its query has to be text. -/
def urlAt (path : Text) (scope : Scope) : Except Fault Text := do
  let headers ← Scope.require "headers" scope.headers
  let scheme := scope.scheme.getD Scope.defaultScheme
  let location ← scope.location? scheme headers
  match Utf8.decode (scope.queryString.getD []) with
  | .ok query => return Scope.assemble scheme location path query
  | .error cause => .error (.undecodable cause)

/-- The health answer, which reads query and header fields before it is given. -/
def health (scope : Scope) : Except Fault Answer := do
  let _ ← Scope.require "query_string" scope.queryString
  let _ ← Scope.require "headers" scope.headers
  return healthy

def answer (scope : Scope) : Except Fault Answer := do
  let path ← Scope.require "path" scope.path
  let rootPath := scope.rootPath.getD []
  let here := localPath rootPath path
  if isHealth here then
    let method ← Scope.require "method" scope.method
    if method = "GET".toList then health scope else return methodNotAllowed
  else if here.getLast? = some '/' ∧ isHealth (localPath rootPath (trimSlashes path)) then
    return redirect (← urlAt (trimSlashes path) scope)
  else return notFound

def Answer.app (a : Answer) : App :=
  .sendThen (Message.startOf a.status (wire a.fields) []) <|
    .sendThen (.body { body := some (Utf8.encode a.body) }) (.finish none)

def app (scope : Scope) : App :=
  match answer scope with
  | .ok found => found.app
  | .error fault => .finish (some fault)

def failed : Answer :=
  let body := "Internal Server Error".toList
  ⟨500, [lengthField body, ("content-type".toList, "text/plain; charset=utf-8".toList)], body⟩

def isStart : Message → Bool
  | .start _ => true
  | _ => false

variable {κ : Type}

/-- Answers for a request that failed without a response; the fault stays, unless answering fails
itself. -/
def answerFailure (report : Report κ) : Report κ :=
  match report.raised with
  | none => report
  | some fault =>
    if fault.disposition ≠ .ordinary ∨ report.channel.sent.any isStart then report
    else
      let run := failed.app.run (fun m (c : Channel) => c.send m) report.channel
      { report with raised := run.ending.or (some fault), channel := run.state }

/-- A request to the service: through the access log, with the last answer around it. -/
def serve [Sink κ] (s : Settings) (clock : Clock) (scope : Scope) (outcomes : Nat → Option Fault)
    (sink : κ) : Report κ :=
  let report := AccessLog.serve s clock scope (app scope) outcomes sink
  if scope.kind = some "http".toList then answerFailure report else report

/-! ## From beginning to end -/

def logger : Text := "accesslog.main".toList

def started (s : Settings) : Text :=
  "accesslog ".toList ++ version ++ " starting (format=".toList ++ s.logFormat.name ++ [')']

def stopped : Text := "Shutdown complete.".toList

def journal (s : Settings) (j : Journal) : Journal :=
  let j := j.setUp s
  (j.write logger Level.info.severity (started s)).write logger Level.info.severity stopped

def milestones : List Text :=
  ["lifespan.startup.complete".toList, "lifespan.shutdown.complete".toList]

end RequestLog.Service

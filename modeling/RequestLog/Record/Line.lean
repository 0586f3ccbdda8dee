import RequestLog.Record

/-!
# Lines

The two written forms of a record. The common line puts the fields between spaces, the request and
the free texts in double quotes, with backslashes and quotes inside escaped by a backslash; an error
line has tag and detail in front. The structured line is one object with the fields in their order.
-/

namespace RequestLog

open Digits

namespace Line

def escapeChar (c : Char) : Text := if c = '\\' ∨ c = '"' then ['\\', c] else [c]

def escape (t : Text) : Text := t.flatMap escapeChar

def quoted (t : Text) : Text := '"' :: escape t ++ ['"']

/-- A hyphen for no octets at all. -/
def sizeText (size : Nat) : Text := if size = 0 then ['-'] else decimal size

def common (r : AccessRecord) : Text :=
  r.host ++ " - ".toList ++ r.user ++ " [".toList ++ r.start.common ++ "] \"".toList ++
    r.method ++ ' ' :: r.uri ++ ' ' :: r.proto ++ "\" ".toList ++
    decimal r.status ++ ' ' :: sizeText r.size ++ ' ' :: quoted r.referrer ++
    ' ' :: quoted r.userAgent ++ ' ' :: r.requestId ++ ' ' :: signed r.elapsed

inductive Value where
  | text (t : Text)
  | number (n : Int)
  | seconds (microseconds : Int)
  deriving DecidableEq, Repr

def accessFields (r : AccessRecord) : List (Text × Value) :=
  [("host".toList, .text r.host), ("user".toList, .text r.user),
    ("start_time".toList, .text r.start.iso), ("method".toList, .text r.method),
    ("uri".toList, .text r.uri), ("proto".toList, .text r.proto),
    ("status".toList, .number r.status), ("size".toList, .number r.size),
    ("referrer".toList, .text r.referrer), ("user_agent".toList, .text r.userAgent),
    ("request_id".toList, .text r.requestId), ("elapsed".toList, .seconds r.elapsed)]

/-- How a character stands in a structured line; controls are escaped, all else is itself. -/
def jsonChar (c : Char) : Text :=
  if c = '"' then ['\\', '"']
  else if c = '\\' then ['\\', '\\']
  else if c = '\x08' then ['\\', 'b']
  else if c = '\t' then ['\\', 't']
  else if c = '\n' then ['\\', 'n']
  else if c = '\x0c' then ['\\', 'f']
  else if c = '\r' then ['\\', 'r']
  else if c.toNat < 0x20 then '\\' :: 'u' :: hexPadded 4 c.toNat
  else [c]

def jsonText (t : Text) : Text := '"' :: t.flatMap jsonChar ++ ['"']

def Value.json : Value → Text
  | .text t => jsonText t
  | .number n => signed n
  | .seconds microseconds => Elapsed.secondsText microseconds

def jsonObject (fields : List (Text × Value)) : Text :=
  '\x7b' :: List.intercalate [','] (fields.map fun f => jsonText f.1 ++ ':' :: f.2.json) ++ ['\x7d']

end Line

namespace LogRecord

def fields : LogRecord → List (Text × Line.Value)
  | .access r => Line.accessFields r
  | .error r =>
    Line.accessFields r.toAccessRecord ++
      [("tag".toList, .text r.tag), ("detail".toList, .text r.detail)]

def common : LogRecord → Text
  | .access r => Line.common r
  | .error r => r.tag ++ ": ".toList ++ r.detail ++ ' ' :: Line.common r.toAccessRecord

def json (r : LogRecord) : Text := Line.jsonObject r.fields

def line (format : LineFormat) (r : LogRecord) : Text :=
  match format with
  | .common => r.common
  | .json => r.json

end LogRecord

end RequestLog

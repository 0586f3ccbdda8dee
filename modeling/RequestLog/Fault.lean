import RequestLog.Address
import RequestLog.Credentials
import RequestLog.Time.Elapsed
import RequestLog.Time.Stamp
import RequestLog.Uri.Reference
import RequestLog.Validation

/-!
# Faults

Everything that can interrupt a request, by cause: what an application, a server or a writer raises,
what this library raises itself, and what reading a request or building its record can meet. Each
fault has a label and, unless it is mute, a message, which together are the detail of an error line.
Only ordinary faults with a detail are answered for; a cancellation is logged and passed on, a fatal
fault passes untouched.
-/

namespace RequestLog

open Digits

inductive LogError.Kind where
  | general
  | flushUnsupported
  | invalidStatus
  | addressSplit
  deriving DecidableEq, Repr

inductive LogError where
  | general (message : Datum)
  | flushUnsupported (writer : Datum)
  | invalidStatus (code : Datum)
  | addressSplit (address reason : Datum)
  deriving DecidableEq, Repr

namespace LogError

def kind : LogError → Kind
  | .general _ => .general
  | .flushUnsupported _ => .flushUnsupported
  | .invalidStatus _ => .invalidStatus
  | .addressSplit _ _ => .addressSplit

def Kind.label : Kind → Text
  | .general => "AccessLogError".toList
  | .flushUnsupported => "FlushNotSupportedError".toList
  | .invalidStatus => "InvalidStatusCodeError".toList
  | .addressSplit => "AddressSplitError".toList

/-- The message as a value, which is a text but for what a general error is given. -/
def message : LogError → Datum
  | .general message => message
  | .flushUnsupported writer => .text (writer.plain ++ " does not support flushing".toList)
  | .invalidStatus code => .text ("Invalid HTTP status code ".toList ++ code.shown)
  | .addressSplit address reason =>
    .text ("address ".toList ++ address.plain ++ ':' :: ' ' :: reason.plain)

def attributes : LogError → Fields
  | .general _ => []
  | .flushUnsupported writer => [("writer_type".toList, writer)]
  | .invalidStatus code => [("status_code".toList, code)]
  | .addressSplit address reason =>
    [("address".toList, address), ("reason".toList, reason)]

/-- The context that the error was given, in which its attributes win; nothing given is an empty
object. -/
def context (e : LogError) (given : Datum) : Datum :=
  match given with
  | .object fields => .object (Fields.update fields e.attributes)
  | other => if other.isEmpty then .object e.attributes else other

def isValueError : LogError → Bool
  | .invalidStatus _ | .addressSplit _ _ => true
  | _ => false

end LogError

inductive SystemFamily where
  | other
  | blocking
  | brokenPipe
  | childProcess
  | connectionAborted
  | connectionRefused
  | connectionReset
  | fileExists
  | fileNotFound
  | interrupted
  | isDirectory
  | notDirectory
  | permission
  | processLookup
  | timeout
  deriving DecidableEq, Repr

namespace SystemFamily

def label : SystemFamily → Text
  | .other => "OSError".toList
  | .blocking => "BlockingIOError".toList
  | .brokenPipe => "BrokenPipeError".toList
  | .childProcess => "ChildProcessError".toList
  | .connectionAborted => "ConnectionAbortedError".toList
  | .connectionRefused => "ConnectionRefusedError".toList
  | .connectionReset => "ConnectionResetError".toList
  | .fileExists => "FileExistsError".toList
  | .fileNotFound => "FileNotFoundError".toList
  | .interrupted => "InterruptedError".toList
  | .isDirectory => "IsADirectoryError".toList
  | .notDirectory => "NotADirectoryError".toList
  | .permission => "PermissionError".toList
  | .processLookup => "ProcessLookupError".toList
  | .timeout => "TimeoutError".toList

def ofNumber (number : Int) : SystemFamily :=
  if number ∈ [11, 114, 115] then .blocking
  else if number ∈ [32, 108] then .brokenPipe
  else if number = 10 then .childProcess
  else if number = 103 then .connectionAborted
  else if number = 111 then .connectionRefused
  else if number = 104 then .connectionReset
  else if number = 17 then .fileExists
  else if number = 2 then .fileNotFound
  else if number = 4 then .interrupted
  else if number = 21 then .isDirectory
  else if number = 20 then .notDirectory
  else if number ∈ [1, 13] then .permission
  else if number = 3 then .processLookup
  else if number = 110 then .timeout
  else .other

end SystemFamily

inductive Family where
  | base
  | cancelled
  | exception
  | value
  | runtime
  | key
  | type
  | custom
  | system (family : SystemFamily)
  deriving DecidableEq, Repr

def Family.label : Family → Text
  | .base => "BaseException".toList
  | .cancelled => "CancelledError".toList
  | .exception => "Exception".toList
  | .value => "ValueError".toList
  | .runtime => "RuntimeError".toList
  | .key => "KeyError".toList
  | .type => "TypeError".toList
  | .custom => "CustomError".toList
  | .system family => family.label

/-- What becomes of a fault that leaves an application. -/
inductive Disposition where
  | ordinary
  | cancelled
  | fatal
  deriving DecidableEq, Repr

inductive Fault where
  | own (error : LogError) (context : Datum)
  | raised (family : Family) (arguments : List Datum) (written : Option Int)
  /-- A failure that cannot tell its message: making it raises the cause. -/
  | mute (family : Family) (written : Option Int) (cause : Fault)
  | missingKey (key : Text)
  | unencodable (cause : Latin1.Unencodable)
  | undecodable (cause : Utf8.Malformed)
  | uri (cause : Uri.Fault)
  | credentials (cause : Credentials.Fault)
  | elapsed (cause : Elapsed.Fault)
  | stamp (cause : Stamp.Fault)
  | invalid (issues : List Issue)
  deriving DecidableEq, Repr

namespace Fault

def invalidStatus (code : Int) : Fault := .own (.invalidStatus (.int code)) .null

def flushUnsupported (writer : Text) : Fault := .own (.flushUnsupported (.text writer)) .null

def addressSplit (address reason : Text) : Fault :=
  .own (.addressSplit (.text address) (.text reason)) .null

def badValue (message : Text) : Fault := .raised .value [.text message] none

def badType (message : Text) : Fault := .raised .type [.text message] none

/-- A failure of the system with two to five arguments has a number and a reason. -/
def numbered? (arguments : List Datum) : Option (Datum × Datum × List Datum) :=
  match arguments with
  | number :: reason :: more => if more.length ≤ 3 then some (number, reason, more) else none
  | _ => none

def argumentsText : List Datum → Text
  | [] => []
  | [argument] => argument.plain
  | arguments => Datum.shownTuple arguments

def filesText (family : Family) (more : List Datum) : Text :=
  match family, more with
  | .system .blocking, .int _ :: _ | .system .blocking, .bool _ :: _ => []
  | _, [] | _, .null :: _ => []
  | _, [file, _, .null] => ':' :: ' ' :: file.shown
  | _, [file, _, other] => ':' :: ' ' :: file.shown ++ " -> ".toList ++ other.shown
  | _, file :: _ => ':' :: ' ' :: file.shown

def raisedMessage (family : Family) (arguments : List Datum) : Text :=
  match family, arguments with
  | .key, [argument] => argument.shown
  | .system _, _ =>
    match numbered? arguments with
    | some (number, reason, more) =>
      "[Errno ".toList ++ number.plain ++ ']' :: ' ' :: reason.plain ++ filesText family more
    | none => argumentsText arguments
  | _, _ => argumentsText arguments

def label : Fault → Text
  | .own error _ => error.kind.label
  | .raised family _ _ | .mute family _ _ => family.label
  | .missingKey _ => "KeyError".toList
  | .unencodable _ => "UnicodeEncodeError".toList
  | .undecodable _ => "UnicodeDecodeError".toList
  | .uri _ | .credentials _ | .stamp _ => "ValueError".toList
  | .elapsed _ => "OverflowError".toList
  | .invalid _ => "ValidationError".toList

def issueLine (issue : Issue) : Text := issue.field ++ ':' :: ' ' :: issue.kind.message

def message : Fault → Except Fault Text
  | .own error _ => .ok error.message.plain
  | .raised family arguments _ => .ok (raisedMessage family arguments)
  | .mute _ _ cause => .error cause
  | .missingKey key => .ok (Quoted.quote key)
  | .unencodable cause => .ok cause.message
  | .undecodable cause => .ok cause.message
  | .uri cause => .ok cause.message
  | .credentials cause => .ok cause.message
  | .elapsed cause => .ok cause.message
  | .stamp cause => .ok cause.message
  | .invalid issues => .ok (List.intercalate ['\n'] (issues.map issueLine))

def detail (f : Fault) : Except Fault Text :=
  f.message.map fun message => f.label ++ ':' :: ' ' :: message

def disposition : Fault → Disposition
  | .raised .base _ _ | .mute .base _ _ => .fatal
  | .raised .cancelled _ _ | .mute .cancelled _ _ => .cancelled
  | _ => .ordinary

/-- How many octets a failed write reports as written: only failures of the system report any. -/
def octetsWritten : Fault → Int
  | .raised (.system _) _ written | .mute (.system _) written _ => written.getD 0
  | _ => 0

end Fault

end RequestLog

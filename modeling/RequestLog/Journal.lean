import RequestLog.Sink
import RequestLog.Time.Moment

/-!
# Journals

A journal is the text that all loggers write to, from when it is first set up. Each entry is one
line: the time, the severity, the logger and the message. An entry below the level that holds for
its logger leaves no line, nor does one at a time that cannot be written; the level is the one last
set up, but the gateway's own access logger keeps to warnings.
-/

namespace RequestLog

structure Journal where
  setting : Option Int := none
  moment : Moment
  text : Text := []
  deriving DecidableEq, Repr

namespace Journal

def gatewayLogger : Text := "uvicorn.access".toList

def handlers (j : Journal) : Nat := if j.setting.isSome then 1 else 0

def level (j : Journal) : Int := j.setting.getD Logger.firstThreshold

/-- The level that the gateway's logger has of its own. -/
def gatewayLevel (j : Journal) : Int := if j.setting.isSome then Level.warning.severity else 0

def isGateway (logger : Text) : Bool :=
  logger == gatewayLogger || (gatewayLogger ++ ['.']).isPrefixOf logger

/-- The level below which a logger's entries leave no line. -/
def levelOf (logger : Text) (j : Journal) : Int :=
  if isGateway logger then j.gatewayLevel else j.level

def setUp (s : Settings) (j : Journal) : Journal := { j with setting := some s.logLevel.severity }

def line (moment : Moment) (logger : Text) (severity : Int) (message : Text) : Text :=
  moment.text ++ " [".toList ++ Level.severityName severity ++ "] ".toList ++
    Logger.known logger ++ ':' :: ' ' :: message ++ ['\n']

def writes (logger : Text) (severity : Int) (j : Journal) : Bool :=
  j.setting.isSome && j.levelOf logger ≤ severity && j.moment.isWritable

def write (logger : Text) (severity : Int) (message : Text) (j : Journal) : Journal :=
  if j.writes logger severity then
    { j with text := j.text ++ line j.moment logger severity message }
  else j

/-- A record's line, by the logger and in the form that are set. -/
def emit (s : Settings) (call : Emission) (record : LogRecord) (j : Journal) : Journal :=
  j.write s.loggerName (LoggingSink.severity call) (record.line s.logFormat)

end Journal

end RequestLog

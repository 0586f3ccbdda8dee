import RequestLog.Fault
import RequestLog.Settings

/-!
# Loggers

A logger has a name and a threshold, below which its entries do not count. A threshold is set by
number or by name; one of zero is none, and then that of the first logger holds, from which all
others descend. The first logger has a name of its own and the empty one.
-/

namespace RequestLog.Logger

def first : Text := "root".toList

def known (name : Text) : Text := if name.isEmpty then first else name

/-- The threshold of the first logger while nothing else is set. -/
def firstThreshold : Int := Level.warning.severity

/-- The threshold that holds for a logger with one of its own. -/
def effective (name : Text) (own : Int) : Int :=
  if own = 0 ∧ known name ≠ first then firstThreshold else own

def otherNames : List (Text × Int) :=
  [("FATAL".toList, Level.critical.severity), ("WARN".toList, Level.warning.severity),
    ("NOTSET".toList, 0)]

def thresholdNames : List (Text × Int) :=
  (Level.all.map fun level => (level.name, level.severity)) ++ otherNames

def threshold (value : Datum) : Except Fault Int :=
  match value, value.whole? with
  | _, some n => .ok n
  | .text name, none =>
    match thresholdNames.lookup name with
    | some n => .ok n
    | none => .error (.badValue ("Unknown level: ".toList ++ value.shown))
  | _, none => .error (.badType ("Level not an integer or a valid string: ".toList ++ value.shown))

end RequestLog.Logger

import RequestLog.Text.Digits

/-!
# Time stamps

A date and a time of day, with the distance of the zone from universal time when the zone is known.
A stamp is made from parts that name a day of the years 1 to 9999 and a time of that day. Two
renderings: the one of the common log line, with the English name of the month, and the
international one of the structured line.
-/

namespace RequestLog

open Digits

structure Stamp where
  year : Nat
  month : Nat
  day : Nat
  hour : Nat
  minute : Nat
  second : Nat
  microsecond : Nat
  /-- Seconds east of universal time; absent when the zone is unknown. -/
  offset : Option Int
  deriving DecidableEq, Repr

namespace Stamp

inductive Fault where
  | year (n : Int)
  | month
  | day
  | hour
  | minute
  | second
  | microsecond
  | offset (seconds : Int)
  deriving DecidableEq, Repr

/-- Days and seconds of a span of time; the seconds never count back. -/
def spanText (seconds : Int) : Text :=
  let rest := seconds.fmod 86400
  "datetime.timedelta(days=".toList ++ signed (seconds.fdiv 86400) ++
    (if rest = 0 then [] else ", seconds=".toList ++ signed rest) ++ [')']

def Fault.message : Fault → Text
  | .year n => "year ".toList ++ signed n ++ " is out of range".toList
  | .month => "month must be in 1..12".toList
  | .day => "day is out of range for month".toList
  | .hour => "hour must be in 0..23".toList
  | .minute => "minute must be in 0..59".toList
  | .second => "second must be in 0..59".toList
  | .microsecond => "microsecond must be in 0..999999".toList
  | .offset seconds =>
    ("offset must be a timedelta strictly between -timedelta(hours=24) and " ++
      "timedelta(hours=24), not ").toList ++ spanText seconds ++ ['.']

def isLeap (year : Int) : Bool := year % 4 = 0 && (year % 100 != 0 || year % 400 = 0)

def daysInMonth (year month : Int) : Int :=
  if month = 2 then if isLeap year then 29 else 28
  else if month ∈ [4, 6, 9, 11] then 30
  else 31

def within (cause : Fault) (least greatest n : Int) : Except Fault Nat :=
  if least ≤ n ∧ n ≤ greatest then .ok n.toNat else .error cause

def checkOffset : Option Int → Except Fault (Option Int)
  | some seconds =>
    if seconds.natAbs < 86400 then .ok (some seconds) else .error (.offset seconds)
  | none => .ok none

/-- The stamp of a date, a time of day and a zone; the first part out of range is the fault. -/
def ofParts (year month day hour minute second microsecond : Int) (offset : Option Int) :
    Except Fault Stamp := do
  let offset ← checkOffset offset
  let y ← within (.year year) 1 9999 year
  let m ← within .month 1 12 month
  let d ← within .day 1 (daysInMonth year month) day
  return {
    year := y
    month := m
    day := d
    hour := ← within .hour 0 23 hour
    minute := ← within .minute 0 59 minute
    second := ← within .second 0 59 second
    microsecond := ← within .microsecond 0 999999 microsecond
    offset := offset }

def monthName (month : Nat) : Text :=
  (["Jan", "Feb", "Mar", "Apr", "May", "Jun", "Jul", "Aug", "Sep", "Oct", "Nov", "Dec"].getD
    (month - 1) "").toList

def clockText (hour minute second : Nat) : Text :=
  decimalPadded 2 hour ++ ':' :: decimalPadded 2 minute ++ ':' :: decimalPadded 2 second

def clockTime (s : Stamp) : Text := clockText s.hour s.minute s.second

def offsetSign (offset : Int) : Char := if offset < 0 then '-' else '+'

/-- Hours and minutes, and seconds when there are any. -/
def commonOffset : Option Int → Text
  | none => []
  | some offset =>
    let seconds := offset.natAbs
    offsetSign offset :: decimalPadded 2 (seconds / 3600) ++ decimalPadded 2 (seconds / 60 % 60) ++
      if seconds % 60 = 0 then [] else decimalPadded 2 (seconds % 60)

/-- The time as the common line has it; the year is not padded. -/
def common (s : Stamp) : Text :=
  decimalPadded 2 s.day ++ '/' :: monthName s.month ++ '/' :: decimal s.year ++ ':' ::
    clockTime s ++ ' ' :: commonOffset s.offset

def isoOffset : Option Int → Text
  | none => []
  | some offset =>
    let minutes := offset.natAbs / 60
    if offset = 0 then ['Z']
    else
      offsetSign offset :: decimalPadded 2 (minutes / 60) ++ ':' :: decimalPadded 2 (minutes % 60)

/-- The time as the structured line has it; a fraction is written in six digits, if there is one. -/
def iso (s : Stamp) : Text :=
  decimalPadded 4 s.year ++ '-' :: decimalPadded 2 s.month ++ '-' :: decimalPadded 2 s.day ++
    'T' :: clockTime s ++
    (if s.microsecond = 0 then [] else '.' :: decimalPadded 6 s.microsecond) ++ isoOffset s.offset

end Stamp

end RequestLog

import RequestLog.Time.Stamp

/-!
# Moments

A moment is a count of seconds from the beginning of 1970, in universal time, and may lie before it.
Its date is reckoned in cycles of 400 years, each of which begins in March and has 146097 days.
-/

namespace RequestLog

open Digits

structure Moment where
  seconds : Int
  deriving DecidableEq, Repr

namespace Moment

structure Date where
  year : Int
  month : Nat
  day : Nat
  deriving DecidableEq, Repr

/-- The date of a day of a cycle; the years are counted from the cycle's beginning. -/
def dateInCycle (day : Nat) : Date :=
  let year := (day - day / 1460 + day / 36524 - day / 146096) / 365
  let dayOfYear := day - (365 * year + year / 4 - year / 100)
  let shifted := (5 * dayOfYear + 2) / 153
  let month := if shifted < 10 then shifted + 3 else shifted - 9
  { year := year + if month ≤ 2 then 1 else 0
    month := month
    day := dayOfYear - (153 * shifted + 2) / 5 + 1 }

/-- The date of a day counted from the beginning of 1970. -/
def dateOfDay (day : Int) : Date :=
  let sinceCycles := day + 719468
  let date := dateInCycle (sinceCycles.fmod 146097).toNat
  { date with year := date.year + 400 * sinceCycles.fdiv 146097 }

def date (m : Moment) : Date := dateOfDay (m.seconds.fdiv 86400)

/-- Years are words of 32 bits; the least ones have no number counted from 1900. -/
def isWritable (m : Moment) : Bool :=
  -2147481748 ≤ m.date.year && m.date.year ≤ 2147483647

/-- Date and time of day without a zone; the year is not padded. -/
def text (m : Moment) : Text :=
  let date := m.date
  let rest := (m.seconds.fmod 86400).toNat
  signed date.year ++ '-' :: decimalPadded 2 date.month ++ '-' :: decimalPadded 2 date.day ++
    'T' :: Stamp.clockText (rest / 3600) (rest / 60 % 60) (rest % 60)

end Moment

end RequestLog

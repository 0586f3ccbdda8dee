import RequestLog.Text.Digits
import RequestLog.Number.Shortest

/-!
# Elapsed time

The time a request took, in whole microseconds. A number of seconds is split into its whole part,
which counts exactly, and a fraction, whose product with a million is rounded as doubles are; the
sum goes to the nearest microsecond, of two to the even one. Less than a thousand million days
either way can be held.
-/

namespace RequestLog.Elapsed

open Digits

inductive Fault where
  | infinite
  | tooManyDays (days : Int)
  deriving DecidableEq, Repr

def Fault.message : Fault → Text
  | .infinite => "cannot convert float infinity to integer".toList
  | .tooManyDays days =>
    if -2147483648 ≤ days ∧ days ≤ 2147483647 then
      "days=".toList ++ signed days ++ "; must have magnitude <= 999999999".toList
    else "Python int too large to convert to C int".toList

def check (microseconds : Int) : Except Fault Int :=
  let days := microseconds.fdiv 86400000000
  if -999999999 ≤ days ∧ days ≤ 999999999 then .ok microseconds else .error (.tooManyDays days)

def ofDyadic (d : Dyadic) : Int :=
  let part := d.fraction
  let scaled := Dyadic.round53 ⟨part.mantissa * 1000000, part.exponent⟩
  let unit : Nat := Nat.pow 2 (-scaled.exponent).toNat
  divHalfEven (d.truncate * 1000000 * unit + scaled.mantissa * Nat.pow 2 scaled.exponent.toNat) unit

def ofSeconds (seconds : Float) : Except Fault Int :=
  match Dyadic.ofFloat? seconds with
  | none => .error .infinite
  | some d => check (ofDyadic d)

def floatOfInt (n : Int) : Float :=
  if n < 0 then -Float.ofScientific n.natAbs false 0 else Float.ofScientific n.natAbs false 0

def fitsWord (n : Int) : Bool := -9223372036854775808 ≤ n && n ≤ 9223372036854775807

/-- Seconds as a double. While the whole seconds fit a word as microseconds, the sum of all
microseconds is one too, and wraps before it is divided; beyond that, seconds and fraction are
doubles that are added. -/
def toSeconds (microseconds : Int) : Float :=
  let seconds := microseconds.fdiv 1000000
  if fitsWord (seconds * 1000000) then
    floatOfInt (Int.bmod microseconds 18446744073709551616) / 1000000.0
  else floatOfInt seconds + floatOfInt (microseconds.fmod 1000000) / 1000000.0

/-- Seconds have at most five digits after a point that no digit precedes, and at most sixteen
before it. -/
def layout : Shortest.Layout := ⟨-4, 16⟩

def secondsText (microseconds : Int) : Text := layout.writeFloat (toSeconds microseconds)

end RequestLog.Elapsed

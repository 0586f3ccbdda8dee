import RequestLog.Text.Digits
import RequestLog.Number.Binary64

/-!
# Shortest decimals

A double is written with the fewest digits that read back as the same double and, of these, the
nearest to it. The numbers that read back form an interval around the double; for each count of
digits the two decimals next to the double are tried.
-/

namespace RequestLog.Shortest

open Digits

/-- The value `digits * 10 ^ exponent`. -/
structure Decimal where
  digits : Nat
  exponent : Int
  deriving DecidableEq, Repr

/-- The double `mantissa * 2 ^ exponent` over a denominator that makes it and the ends of the
interval of numbers nearest to it whole. -/
structure Interval where
  low : Nat
  middle : Nat
  high : Nat
  denominator : Nat
  closed : Bool

def interval (mantissa : Nat) (exponent : Int) : Interval :=
  let up := if 2 ≤ exponent then Nat.pow 2 (exponent - 2).toNat else 1
  let down := if 2 ≤ exponent then 1 else Nat.pow 2 (2 - exponent).toNat
  let gapBelow := if mantissa = Nat.pow 2 52 ∧ -1074 < exponent then 1 else 2
  ⟨(4 * mantissa - gapBelow) * up, 4 * mantissa * up, (4 * mantissa + 2) * up, down,
    mantissa % 2 = 0⟩

def Interval.holds (i : Interval) (d : Decimal) : Bool :=
  let scaled := d.digits * Nat.pow 10 d.exponent.toNat * i.denominator
  let factor := Nat.pow 10 (-d.exponent).toNat
  if i.closed then i.low * factor ≤ scaled && scaled ≤ i.high * factor
  else i.low * factor < scaled && scaled < i.high * factor

/-- The decimal with the given exponent just below the double, and twice the part left over with
the unit that it is a part of. -/
def Interval.below (i : Interval) (exponent : Int) : Nat × Nat × Nat :=
  let n := i.middle * Nat.pow 10 (-exponent).toNat
  let d := i.denominator * Nat.pow 10 exponent.toNat
  (n / d, 2 * (n % d), d)

/-- The decimal of the given exponent that reads back, if one does. -/
def Interval.pick? (i : Interval) (exponent : Int) : Option Decimal :=
  let (floor, rest, unit) := i.below exponent
  let down : Decimal := ⟨floor, exponent⟩
  let up : Decimal := ⟨floor + 1, exponent⟩
  match i.holds down, i.holds up with
  | true, true => some (if rest < unit ∨ (rest = unit ∧ floor % 2 = 0) then down else up)
  | true, false => some down
  | false, true => some up
  | false, false => none

/-- An exponent that the leading digit does not exceed. -/
def Interval.leading (i : Interval) : Int :=
  if i.denominator ≤ i.middle then (decimal (i.middle / i.denominator)).length
  else 1 - ((decimal (i.denominator / i.middle)).length : Int) + 1

/-- The digits of a positive double given by its mantissa and exponent. -/
def digits (mantissa : Nat) (exponent : Int) : Decimal :=
  let i := interval mantissa exponent
  ((List.range 20).findSome? fun (n : Nat) => i.pick? (i.leading - n)).getD ⟨0, 0⟩

/-- Where a decimal is written with a point among its digits, and where with an exponent. -/
structure Layout where
  /-- The least position of the point, counted from the first digit, without an exponent. -/
  least : Int
  greatest : Int

def Layout.write (layout : Layout) (d : Decimal) : Text :=
  let ds := decimal d.digits
  let point : Int := d.exponent + ds.length
  if layout.least ≤ point ∧ point ≤ layout.greatest then
    if 0 ≤ d.exponent then ds ++ List.replicate d.exponent.toNat '0' ++ ['.', '0']
    else if 0 < point then ds.take point.toNat ++ '.' :: ds.drop point.toNat
    else '0' :: '.' :: List.replicate (-point).toNat '0' ++ ds
  else
    let mark := 'e' :: signed (point - 1)
    match ds with
    | [one] => one :: mark
    | first :: rest => first :: '.' :: rest ++ mark
    | [] => mark

def Decimal.trim (d : Decimal) : Decimal :=
  let zeros := ((decimal d.digits).reverse.takeWhile (· == '0')).length
  if d.digits = 0 then ⟨0, 0⟩ else ⟨d.digits / Nat.pow 10 zeros, d.exponent + zeros⟩

def Layout.writeFloat (layout : Layout) (x : Float) : Text :=
  match Dyadic.ofFloat? x with
  | none => []
  | some ⟨mantissa, exponent⟩ =>
    if mantissa = 0 then layout.write ⟨0, 0⟩
    else if mantissa < 0 then
      '-' :: layout.write (digits mantissa.natAbs exponent).trim
    else layout.write (digits mantissa.natAbs exponent).trim

end RequestLog.Shortest

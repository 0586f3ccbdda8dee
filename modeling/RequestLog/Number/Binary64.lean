/-!
# Binary floating point

A finite double is a whole number times a power of two. This module reads that number off the bits
and rounds quotients of whole numbers, so that everything computed from a clock reading afterwards
is exact arithmetic.
-/

namespace RequestLog

/-- The value `mantissa * 2 ^ exponent`. -/
structure Dyadic where
  mantissa : Int
  exponent : Int
  deriving DecidableEq, Repr

namespace Dyadic

def ofFloat? (x : Float) : Option Dyadic :=
  let bits : Nat := x.toBits.toNat
  let biased : Nat := bits % Nat.pow 2 63 / Nat.pow 2 52
  let low : Nat := bits % Nat.pow 2 52
  let sign : Int := if bits < Nat.pow 2 63 then 1 else -1
  if biased = 2047 then none
  else if biased = 0 then some ⟨sign * low, -1074⟩
  else some ⟨sign * Int.ofNat (low + Nat.pow 2 52), Int.ofNat biased - 1075⟩

/-- The whole part, toward zero. -/
def truncate (d : Dyadic) : Int :=
  if 0 ≤ d.exponent then d.mantissa * Nat.pow 2 d.exponent.toNat
  else d.mantissa.tdiv (Nat.pow 2 (-d.exponent).toNat)

def fraction (d : Dyadic) : Dyadic :=
  if 0 ≤ d.exponent then ⟨0, 0⟩
  else ⟨d.mantissa.tmod (Nat.pow 2 (-d.exponent).toNat), d.exponent⟩

end Dyadic

/-- The whole number nearest to a quotient, of two the even one. -/
def divHalfEven (n : Int) (d : Nat) : Int :=
  let q := n.fdiv d
  let r := n.fmod d
  if 2 * r < d then q else if 2 * r = d ∧ q % 2 = 0 then q else q + 1

/-- Rounds to a mantissa of at most 53 bits, as the product of two doubles is rounded. -/
def Dyadic.round53 (d : Dyadic) : Dyadic :=
  let excess := d.mantissa.natAbs.log2 + 1 - 53
  ⟨divHalfEven d.mantissa (Nat.pow 2 excess), d.exponent + excess⟩

end RequestLog

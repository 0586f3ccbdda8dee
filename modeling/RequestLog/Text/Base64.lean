import RequestLog.Text.Basic

/-!
# Base64

The standard alphabet, read strictly: only digits of the alphabet and then only padding. Two digits
left over take two `=`, three take one, and after complete groups of four any number of `=` may
follow. Bits that the last digit has to spare are not looked at.
-/

namespace RequestLog.Base64

def digit (n : Nat) : Char :=
  Char.ofNat (if n < 26 then 65 + n else if n < 52 then 71 + n else if n < 62 then n - 4
    else if n = 62 then 43 else 47)

def value? (c : Char) : Option Nat :=
  if c.isUpper then some (c.toNat - 65)
  else if c.isLower then some (c.toNat - 71)
  else if c.isDigit then some (c.toNat + 4)
  else if c = '+' then some 62
  else if c = '/' then some 63
  else none

theorem value?_digit : ∀ n < 64, value? (digit n) = some n := by decide

def encode : Octets → Text
  | a :: b :: c :: rest =>
    let n := (a.toNat * 256 + b.toNat) * 256 + c.toNat
    digit (n / 262144) :: digit (n / 4096 % 64) :: digit (n / 64 % 64) :: digit (n % 64)
      :: encode rest
  | [a, b] =>
    let n := (a.toNat * 256 + b.toNat) * 4
    [digit (n / 4096), digit (n / 64 % 64), digit (n % 64), '=']
  | [a] =>
    let n := a.toNat * 16
    [digit (n / 64), digit (n % 64), '=', '=']
  | [] => []

/-- The octets of a run of digit values; a lone last value names no octet. -/
def octets : List Nat → Octets
  | a :: b :: c :: d :: rest =>
    let n := ((a * 64 + b) * 64 + c) * 64 + d
    UInt8.ofNat (n / 65536) :: UInt8.ofNat (n / 256 % 256) :: UInt8.ofNat (n % 256) :: octets rest
  | [a, b, c] =>
    let n := (a * 64 + b) * 64 + c
    [UInt8.ofNat (n / 1024), UInt8.ofNat (n / 4 % 256)]
  | [a, b] => [UInt8.ofNat ((a * 64 + b) / 16)]
  | _ => []

def paddingFits (digits padding : Nat) : Bool :=
  match digits % 4 with
  | 0 => padding == 0 || digits != 0
  | 2 => padding == 2
  | 3 => padding == 1
  | _ => false

def isDigit (c : Char) : Bool := (value? c).isSome

def decode? (t : Text) : Option Octets :=
  let digits := t.takeWhile isDigit
  let padding := t.dropWhile isDigit
  if padding.all (· == '=') && paddingFits digits.length padding.length then
    some (octets (digits.filterMap value?))
  else none

end RequestLog.Base64

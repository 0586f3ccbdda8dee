import RequestLog.Text.Basic

/-!
# Digits

Numbers written with digits: padded decimals for dates, and hexadecimal digits for escapes.
`hexValue?` reads what `upperHex` and `lowerHex` write.
-/

namespace RequestLog.Digits

def upperHex (n : Nat) : Char := Char.ofNat (if n < 10 then 48 + n else 55 + n)

def lowerHex (n : Nat) : Char := Char.ofNat (if n < 10 then 48 + n else 87 + n)

/-- The value of a hexadecimal digit in either case, given by its code. -/
def hexValue? (code : Nat) : Option Nat :=
  if 48 ≤ code ∧ code ≤ 57 then some (code - 48)
  else if 65 ≤ code ∧ code ≤ 70 then some (code - 55)
  else if 97 ≤ code ∧ code ≤ 102 then some (code - 87)
  else none

theorem hexValue?_upperHex : ∀ n < 16, hexValue? (upperHex n).toNat = some n := by decide

theorem hexValue?_lowerHex : ∀ n < 16, hexValue? (lowerHex n).toNat = some n := by decide

def isHex (c : Char) : Bool := (hexValue? c.toNat).isSome

/-- Hexadecimal in lower case, with zeros in front up to the width. -/
def hexPadded (width n : Nat) : Text :=
  (List.range width).map fun i => lowerHex (n / Nat.pow 16 (width - 1 - i) % 16)

def decimal (n : Nat) : Text := Nat.toDigits 10 n

def decimalPadded (width n : Nat) : Text :=
  List.replicate (width - (decimal n).length) '0' ++ decimal n

def signed (n : Int) : Text :=
  if n < 0 then '-' :: decimal n.natAbs else decimal n.natAbs

/-- Reads a run of decimal digits; the caller checks that there are only digits. -/
def value (digits : Text) : Nat :=
  digits.foldl (fun n c => n * 10 + (c.toNat - 48)) 0

end RequestLog.Digits

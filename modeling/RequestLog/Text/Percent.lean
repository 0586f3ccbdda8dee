import RequestLog.Text.Digits
import RequestLog.Text.Utf8

/-!
# Percent escapes

An octet outside the kept characters is written as `%` and two upper-case hexadecimal digits.
Reading takes `%` with two digits of either case as an octet and lets any other `%` stand for
itself, so every octet list can be read, and reading undoes writing whenever `%` is not kept.
-/

namespace RequestLog.Percent

open Digits

def isUnreserved (c : Char) : Bool :=
  c.isAlphanum || c == '_' || c == '.' || c == '-' || c == '~'

def escapeOctet (b : UInt8) : Text := ['%', upperHex (b.toNat / 16), upperHex (b.toNat % 16)]

def escapeBy (keep : Char → Bool) (b : UInt8) : Text :=
  if keep (Char.ofUInt8 b) then [Char.ofUInt8 b] else escapeOctet b

/-- Escapes all octets but those of unreserved characters and of the given ones, which are ASCII. -/
def escape (safe : Text) (octets : Octets) : Text :=
  octets.flatMap (escapeBy fun c => isUnreserved c || safe.contains c)

def pair? : Octets → Option UInt8
  | a :: b :: _ =>
    match hexValue? a.toNat, hexValue? b.toNat with
    | some high, some low => some (UInt8.ofNat (high * 16 + low))
    | _, _ => none
  | _ => none

/-- Reads escapes after passing over the digits of the one before. -/
def unescapeFrom : Nat → Octets → Octets
  | _, [] => []
  | skip + 1, _ :: rest => unescapeFrom skip rest
  | 0, b :: rest =>
    match (if b = 37 then pair? rest else none) with
    | some octet => octet :: unescapeFrom 2 rest
    | none => b :: unescapeFrom 0 rest

def unescape (octets : Octets) : Octets := unescapeFrom 0 octets

/-- The text that an escaped text stands for, read as UTF-8. -/
def unescapeText (t : Text) : Text := Utf8.decodeLossy (unescape (Utf8.encode t))

theorem unescape_cons_of_ne {b : UInt8} (h : b ≠ 37) (rest : Octets) :
    unescape (b :: rest) = b :: unescape rest := by
  simp [unescape, unescapeFrom, h]

theorem unescape_escape_cons {a b octet : UInt8} {rest : Octets}
    (h : pair? (a :: b :: rest) = some octet) :
    unescape (37 :: a :: b :: rest) = octet :: unescape rest := by
  simp [unescape, unescapeFrom, h]

end RequestLog.Percent

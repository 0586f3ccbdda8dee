import RequestLog.Text.Basic

/-!
# Blanks

Which characters are blank by Unicode's property White_Space, and which by the wider class that has
the four information separators too. Trimming takes such characters from both ends of a text.
-/

namespace RequestLog.Blank

/-- The ranges of the property White_Space. -/
def whiteSpace : List (Nat × Nat) :=
  [(0x09, 0x0D), (0x20, 0x20), (0x85, 0x85), (0xA0, 0xA0), (0x1680, 0x1680), (0x2000, 0x200A),
    (0x2028, 0x2029), (0x202F, 0x202F), (0x205F, 0x205F), (0x3000, 0x3000)]

def isWhite (c : Char) : Bool := whiteSpace.any fun range => range.1 ≤ c.toNat && c.toNat ≤ range.2

def isSeparator (c : Char) : Bool := 0x1C ≤ c.toNat && c.toNat ≤ 0x1F

def isSpace (c : Char) : Bool := isWhite c || isSeparator c

def trimEnd (blank : Char → Bool) (t : Text) : Text := (t.reverse.dropWhile blank).reverse

def trim (blank : Char → Bool) (t : Text) : Text := trimEnd blank (t.dropWhile blank)

end RequestLog.Blank

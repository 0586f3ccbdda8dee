import RequestLog.Text.Digits

/-!
# Latin-1

The encoding in which header values and raw paths cross the wire: octet `n` is the character with
code `n`. Every octet list decodes; a text encodes exactly when all its codes are below 256, and a
failure names the first run of characters that do not fit.
-/

namespace RequestLog.Latin1

open Digits

def decode (octets : Octets) : Text := octets.map Char.ofUInt8

def fits (c : Char) : Bool := c.toNat < 256

/-- The first run of characters that have no octet, and where it starts. -/
structure Unencodable where
  position : Nat
  first : Char
  others : Text
  deriving DecidableEq, Repr

def encode (t : Text) : Except Unencodable Octets :=
  match t.dropWhile fits with
  | [] => .ok (t.map fun c => UInt8.ofNat c.toNat)
  | c :: rest => .error ⟨(t.takeWhile fits).length, c, rest.takeWhile fun c => !fits c⟩

theorem toNat_ofUInt8 (b : UInt8) : (Char.ofUInt8 b).toNat = b.toNat := UInt8.toNat_toUInt32 b

theorem ofNat_toNat_ofUInt8 (b : UInt8) : UInt8.ofNat (Char.ofUInt8 b).toNat = b := by
  rw [toNat_ofUInt8, UInt8.ofNat_toNat]

theorem ofUInt8_ofNat_toNat {c : Char} (h : c.toNat < 256) :
    Char.ofUInt8 (UInt8.ofNat c.toNat) = c := by
  rw [← Char.toNat_inj, toNat_ofUInt8, UInt8.toNat_ofNat', Nat.mod_eq_of_lt h]

theorem mem_decode_iff {b : UInt8} {octets : Octets} :
    Char.ofUInt8 b ∈ decode octets ↔ b ∈ octets := by
  constructor
  · intro h
    obtain ⟨other, hOther, hSame⟩ := List.mem_map.mp h
    have hOctet := congrArg (fun c => UInt8.ofNat c.toNat) hSame
    simp only [ofNat_toNat_ofUInt8] at hOctet
    rwa [← hOctet]
  · exact List.mem_map_of_mem

theorem encode_eq_ok {t : Text} (h : ∀ c ∈ t, fits c = true) :
    encode t = .ok (t.map fun c => UInt8.ofNat c.toNat) := by
  have hd : t.dropWhile fits = [] := by
    induction t with
    | nil => rfl
    | cons c rest ih =>
      rw [List.dropWhile_cons, if_pos (h c List.mem_cons_self)]
      exact ih fun x hx => h x (List.mem_cons_of_mem c hx)
  simp [encode, hd]

theorem encode_decode (octets : Octets) : encode (decode octets) = .ok octets := by
  rw [encode_eq_ok]
  · congr 1
    induction octets with
    | nil => rfl
    | cons b rest ih =>
      simp only [decode, List.map_cons] at ih ⊢
      rw [ih, ofNat_toNat_ofUInt8]
  · intro c hc
    obtain ⟨b, -, rfl⟩ := List.mem_map.1 hc
    have := b.toNat_lt
    exact decide_eq_true (by rw [toNat_ofUInt8]; omega)

theorem decode_map {t : Text} (h : ∀ c ∈ t, fits c = true) :
    decode (t.map fun c => UInt8.ofNat c.toNat) = t := by
  induction t with
  | nil => rfl
  | cons c rest ih =>
    obtain ⟨hFirst, hRest⟩ := List.forall_mem_cons.mp h
    simp only [decode, List.map_cons] at ih ⊢
    rw [ih hRest, ofUInt8_ofNat_toNat (of_decide_eq_true hFirst)]

theorem decode_of_encode {t : Text} {octets : Octets} (h : encode t = .ok octets) :
    decode octets = t := by
  unfold encode at h
  split at h
  · next hNone =>
    cases h
    have hFits : t.takeWhile fits = t := by
      have hParts := List.takeWhile_append_dropWhile (p := fits) (l := t)
      rwa [hNone, List.append_nil] at hParts
    apply decode_map
    rw [← List.all_eq_true, ← hFits]
    exact List.all_takeWhile
  · cases h

/-- The escape that stands for a character beyond the encoding. -/
def escapedCode (c : Char) : Text :=
  if c.toNat < 256 then '\\' :: 'x' :: hexPadded 2 c.toNat
  else if c.toNat < 65536 then '\\' :: 'u' :: hexPadded 4 c.toNat
  else '\\' :: 'U' :: hexPadded 8 c.toNat

def Unencodable.message (e : Unencodable) : Text :=
  if e.others.isEmpty then
    "'latin-1' codec can't encode character '".toList ++ escapedCode e.first ++
      "' in position ".toList ++ decimal e.position ++ ": ordinal not in range(256)".toList
  else
    "'latin-1' codec can't encode characters in position ".toList ++ decimal e.position ++
      '-' :: decimal (e.position + e.others.length) ++ ": ordinal not in range(256)".toList

end RequestLog.Latin1

import RequestLog.Text.Digits

/-!
# UTF-8

One scanner reads octets as characters and marks each ill-formed sequence, taken as long as it
could still have become a character. The strict decoder accepts a scan without marks, the lenient
one puts U+FFFD for each mark, and `malformed?` tells where the first mark is and why. Scanning what
`encode` writes gives the characters back.
-/

namespace RequestLog.Utf8

open Digits

def encodeChar (c : Char) : Octets :=
  let n := c.toNat
  if n < 0x80 then [UInt8.ofNat n]
  else if n < 0x800 then [UInt8.ofNat (0xC0 + n / 64), UInt8.ofNat (0x80 + n % 64)]
  else if n < 0x10000 then
    [UInt8.ofNat (0xE0 + n / 4096), UInt8.ofNat (0x80 + n / 64 % 64), UInt8.ofNat (0x80 + n % 64)]
  else
    [UInt8.ofNat (0xF0 + n / 262144), UInt8.ofNat (0x80 + n / 4096 % 64),
      UInt8.ofNat (0x80 + n / 64 % 64), UInt8.ofNat (0x80 + n % 64)]

def encode (t : Text) : Octets := t.flatMap encodeChar

/-- Between characters, or inside one: how many octets follow the next one, the bits read so far,
and the range in which the next octet must lie. -/
inductive State where
  | ready
  | pending (left value low high : Nat)
  deriving DecidableEq, Repr

def begin (n : Nat) : List (Option Char) × State :=
  if n < 0x80 then ([some (Char.ofNat n)], .ready)
  else if n < 0xC2 then ([none], .ready)
  else if n < 0xE0 then ([], .pending 0 (n % 32) 0x80 0xBF)
  else if n < 0xF0 then
    ([], .pending 1 (n % 16) (if n = 0xE0 then 0xA0 else 0x80) (if n = 0xED then 0x9F else 0xBF))
  else if n < 0xF5 then
    ([], .pending 2 (n % 8) (if n = 0xF0 then 0x90 else 0x80) (if n = 0xF4 then 0x8F else 0xBF))
  else ([none], .ready)

/-- An octet that cannot continue a character marks what was read and begins anew. -/
def step (s : State) (n : Nat) : List (Option Char) × State :=
  match s with
  | .ready => begin n
  | .pending left value low high =>
    if low ≤ n ∧ n ≤ high then
      match left with
      | 0 => ([some (Char.ofNat (value * 64 + n % 64))], .ready)
      | more + 1 => ([], .pending more (value * 64 + n % 64) 0x80 0xBF)
    else (none :: (begin n).1, (begin n).2)

/-- The characters of an octet list, `none` for each ill-formed sequence. -/
def scan (s : State) : Octets → List (Option Char)
  | [] => if s = .ready then [] else [none]
  | b :: rest => (step s b.toNat).1 ++ scan (step s b.toNat).2 rest

def replacement : Char := '\ufffd'

def decodeLossy (octets : Octets) : Text := (scan .ready octets).map (·.getD replacement)

def decode? (octets : Octets) : Option Text :=
  let marks := scan .ready octets
  if marks.all Option.isSome then some (marks.filterMap id) else none

inductive Flaw where
  | start
  | continuation
  | unfinished
  deriving DecidableEq, Repr

def Flaw.reason : Flaw → Text
  | .start => "invalid start byte".toList
  | .continuation => "invalid continuation byte".toList
  | .unfinished => "unexpected end of data".toList

/-- An ill-formed sequence: where it begins, its octets, and what is wrong with it. -/
structure Malformed where
  position : Nat
  octets : Octets
  flaw : Flaw
  deriving DecidableEq, Repr

def Malformed.message (m : Malformed) : Text :=
  let place := match m.octets with
    | [b] => "byte 0x".toList ++ hexPadded 2 b.toNat ++ " in position ".toList ++ decimal m.position
    | _ => "bytes in position ".toList ++ decimal m.position ++ '-' ::
      decimal (m.position + m.octets.length - 1)
  "'utf-8' codec can't decode ".toList ++ place ++ ':' :: ' ' :: m.flaw.reason

/-- The first ill-formed sequence behind `position` octets and those held of a character. -/
def findMalformed (s : State) (position : Nat) (held : Octets) : Octets → Option Malformed
  | [] => if s = .ready then none else some ⟨position, held, .unfinished⟩
  | b :: rest =>
    match step s b.toNat with
    | ([], next) => findMalformed next position (held ++ [b]) rest
    | (some _ :: _, next) => findMalformed next (position + held.length + 1) [] rest
    | (none :: _, _) =>
      if s = .ready then some ⟨position, [b], .start⟩ else some ⟨position, held, .continuation⟩

def malformed? (octets : Octets) : Option Malformed := findMalformed .ready 0 [] octets

def decode (octets : Octets) : Except Malformed Text :=
  match malformed? octets with
  | some m => .error m
  | none => .ok (decodeLossy octets)

theorem scan_encodeChar_append (c : Char) (rest : Octets) :
    scan .ready (encodeChar c ++ rest) = some c :: scan .ready rest := by
  have hv : c.toNat < 0xD800 ∨ (0xDFFF < c.toNat ∧ c.toNat < 0x110000) := c.valid
  have hc : Char.ofNat c.toNat = c := Char.ofNat_toNat c
  unfold encodeChar
  generalize c.toNat = n at hv hc
  subst hc
  simp only
  split
  · have h1 : n % 256 = n := by omega
    simp only [List.cons_append, List.nil_append, scan, step, begin, UInt8.toNat_ofNat',
      Nat.reducePow, h1]
    rw [if_pos (by omega)]
    simp only [List.cons_append, List.nil_append]
  split
  · have h1 : (0xC0 + n / 64) % 256 = 0xC0 + n / 64 := by omega
    have h2 : (0x80 + n % 64) % 256 = 0x80 + n % 64 := by omega
    have h3 : (0xC0 + n / 64) % 32 * 64 + (0x80 + n % 64) % 64 = n := by omega
    simp only [List.cons_append, List.nil_append, scan, step, begin, UInt8.toNat_ofNat',
      Nat.reducePow, h1, h2]
    rw [if_neg (by omega), if_neg (by omega), if_pos (by omega)]
    simp only [List.nil_append]
    rw [if_pos (by omega)]
    simp only [h3, List.cons_append, List.nil_append]
  split
  · have h1 : (0xE0 + n / 4096) % 256 = 0xE0 + n / 4096 := by omega
    have h2 : (0x80 + n / 64 % 64) % 256 = 0x80 + n / 64 % 64 := by omega
    have h3 : (0x80 + n % 64) % 256 = 0x80 + n % 64 := by omega
    have h4 : ((0xE0 + n / 4096) % 16 * 64 + (0x80 + n / 64 % 64) % 64) * 64
        + (0x80 + n % 64) % 64 = n := by omega
    simp only [List.cons_append, List.nil_append, scan, step, begin, UInt8.toNat_ofNat',
      Nat.reducePow, h1, h2, h3]
    rw [if_neg (by omega), if_neg (by omega), if_neg (by omega), if_pos (by omega)]
    simp only [List.nil_append]
    rw [if_pos (by constructor <;> split <;> omega)]
    simp only [List.nil_append]
    rw [if_pos (by omega)]
    simp only [h4, List.cons_append, List.nil_append]
  · have h1 : (0xF0 + n / 262144) % 256 = 0xF0 + n / 262144 := by omega
    have h2 : (0x80 + n / 4096 % 64) % 256 = 0x80 + n / 4096 % 64 := by omega
    have h3 : (0x80 + n / 64 % 64) % 256 = 0x80 + n / 64 % 64 := by omega
    have h4 : (0x80 + n % 64) % 256 = 0x80 + n % 64 := by omega
    have h5 : (((0xF0 + n / 262144) % 8 * 64 + (0x80 + n / 4096 % 64) % 64) * 64
        + (0x80 + n / 64 % 64) % 64) * 64 + (0x80 + n % 64) % 64 = n := by omega
    simp only [List.cons_append, List.nil_append, scan, step, begin, UInt8.toNat_ofNat',
      Nat.reducePow, h1, h2, h3, h4]
    rw [if_neg (by omega), if_neg (by omega), if_neg (by omega), if_neg (by omega),
      if_pos (by omega)]
    simp only [List.nil_append]
    rw [if_pos (by constructor <;> split <;> omega)]
    simp only [List.nil_append]
    rw [if_pos (by omega)]
    simp only [List.nil_append]
    rw [if_pos (by omega)]
    simp only [h5, List.cons_append, List.nil_append]

theorem scan_encode_append (t : Text) (rest : Octets) :
    scan .ready (encode t ++ rest) = t.map some ++ scan .ready rest := by
  induction t with
  | nil => rfl
  | cons c more ih =>
    simp only [encode, List.flatMap_cons, List.append_assoc] at ih ⊢
    rw [scan_encodeChar_append, ih]
    rfl

theorem scan_encode (t : Text) : scan .ready (encode t) = t.map some := by
  simpa [scan] using scan_encode_append t []

theorem step_ne_nil_tail {s : State} {n : Nat} {c : Char} {more : List (Option Char)}
    (h : (step s n).1 = some c :: more) : more = [] := by
  unfold step begin at h
  repeat' split at h
  all_goals simp_all

theorem findMalformed_eq_none_iff (s : State) (position : Nat) (held octets : Octets) :
    findMalformed s position held octets = none ↔ ∀ mark ∈ scan s octets, mark.isSome := by
  induction octets generalizing s position held with
  | nil => by_cases h : s = .ready <;> simp [findMalformed, scan, h]
  | cons b rest ih =>
    unfold findMalformed scan
    split
    · next next h => simp [h, ih]
    · next c more next h =>
      have hm : more = [] := step_ne_nil_tail (s := s) (n := b.toNat) (by rw [h])
      subst hm
      simp [h, ih]
    · next more next h =>
      rw [h]
      split <;> simp

theorem malformed?_eq_none_iff (octets : Octets) :
    malformed? octets = none ↔ (decode? octets).isSome := by
  rw [malformed?, findMalformed_eq_none_iff]
  simp [decode?, List.all_eq_true]

theorem decodeLossy_encode (t : Text) : decodeLossy (encode t) = t := by
  simp [decodeLossy, scan_encode, Function.comp_def]

theorem decode?_encode (t : Text) : decode? (encode t) = some t := by
  simp [decode?, scan_encode, List.filterMap_map, Function.comp_def]

end RequestLog.Utf8

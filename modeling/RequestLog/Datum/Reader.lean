import RequestLog.Datum
import RequestLog.Text.Numeral

/-!
# Reading values

Values written as JSON, as lists are in the environment. A text is read whole or not at all; blanks
may stand around every token. Lists and objects lie only so deep in one another; one that lies
deeper is told apart from a text that is no value. Each step consumes a character, so the length of
the text bounds the number of steps.
-/

namespace RequestLog.Datum

open Digits

def isBlank (c : Char) : Bool := c = ' ' || c = '\t' || c = '\n' || c = '\r'

def skipBlanks (t : Text) : Text := t.dropWhile isBlank

def after? (word t : Text) : Option Text :=
  if word.isPrefixOf t then some (t.drop word.length) else none

def readCode? : Text → Option (Nat × Text)
  | a :: b :: c :: d :: rest => do
    let a ← hexValue? a.toNat
    let b ← hexValue? b.toNat
    let c ← hexValue? c.toNat
    let d ← hexValue? d.toNat
    return (((a * 16 + b) * 16 + c) * 16 + d, rest)
  | _ => none

def isHighSurrogate (n : Nat) : Bool := 0xD800 ≤ n && n < 0xDC00

def isLowSurrogate (n : Nat) : Bool := 0xDC00 ≤ n && n < 0xE000

def charOfCode (n : Nat) : Char :=
  if isHighSurrogate n || isLowSurrogate n then '\ufffd' else Char.ofNat n

/-- A character by its code; two surrogates in a row are one character. -/
def readEscapedCode? (t : Text) : Option (Char × Text) := do
  let (high, rest) ← readCode? t
  match if isHighSurrogate high then (after? ['\\', 'u'] rest).bind readCode? else none with
  | some (low, rest') =>
    if isLowSurrogate low then
      return (Char.ofNat (0x10000 + (high - 0xD800) * 1024 + (low - 0xDC00)), rest')
    else return (charOfCode high, rest)
  | none => return (charOfCode high, rest)

def escapedChar? : Char → Option Char
  | '"' => some '"'
  | '\\' => some '\\'
  | '/' => some '/'
  | 'b' => some '\x08'
  | 'f' => some '\x0c'
  | 'n' => some '\n'
  | 'r' => some '\r'
  | 't' => some '\t'
  | _ => none

/-- The rest of a text in quotes, up to and without the closing quote. -/
def readText? : Nat → Text → Option (Text × Text)
  | 0, _ => none
  | fuel + 1, t =>
    match t with
    | [] => none
    | '"' :: rest => some ([], rest)
    | '\\' :: 'u' :: rest => do
      let (c, rest) ← readEscapedCode? rest
      let (more, rest) ← readText? fuel rest
      return (c :: more, rest)
    | '\\' :: e :: rest => do
      let c ← escapedChar? e
      let (more, rest) ← readText? fuel rest
      return (c :: more, rest)
    | c :: rest =>
      if c.toNat < 0x20 || c = '\\' then none
      else do
        let (more, rest) ← readText? fuel rest
        return (c :: more, rest)

def readDigitsAfter (isMark : Char → Bool) (t : Text) : Text × Text :=
  match t with
  | mark :: rest =>
    let digits := rest.takeWhile Char.isDigit
    if isMark mark && !digits.isEmpty then (mark :: digits, rest.dropWhile Char.isDigit)
    else ([], t)
  | [] => ([], [])

def readExponent (t : Text) : Text × Text :=
  match t with
  | e :: sign :: rest =>
    if (e = 'e' || e = 'E') && (sign = '+' || sign = '-') then
      let digits := rest.takeWhile Char.isDigit
      if digits.isEmpty then ([], t) else (e :: sign :: digits, rest.dropWhile Char.isDigit)
    else readDigitsAfter (fun c => c = 'e' || c = 'E') t
  | _ => ([], t)

/-- A number without a sign; one without fraction and exponent is whole, and then has no more
digits than a numeral may have. -/
def readMagnitude? (negative : Bool) (t : Text) : Option (Datum × Text) :=
  let digits := match t with
    | '0' :: _ => ['0']
    | _ => t.takeWhile Char.isDigit
  let rest := t.drop digits.length
  if digits.isEmpty then none
  else
    let (fraction, rest) := readDigitsAfter (· = '.') rest
    let (exponent, rest) := readExponent rest
    let signText := if negative then ['-'] else []
    if fraction.isEmpty && exponent.isEmpty then
      if Numeral.mostDigits < digits.length then none
      else some (.int (if negative then -(value digits : Int) else value digits), rest)
    else some (.number (signText ++ digits ++ fraction ++ exponent), rest)

def words : List (Text × Datum) :=
  [("null".toList, .null), ("true".toList, .bool true), ("false".toList, .bool false),
    ("NaN".toList, .number "nan".toList), ("Infinity".toList, .number "inf".toList),
    ("-Infinity".toList, .number "-inf".toList)]

def readWord? (t : Text) : Option (Datum × Text) :=
  words.findSome? fun (word, value) => (after? word t).map fun rest => (value, rest)

def readScalar? (t : Text) : Option (Datum × Text) :=
  (readWord? t).or <|
    match t with
    | '"' :: rest => (readText? t.length rest).map fun (t, rest) => (.text t, rest)
    | '-' :: rest => readMagnitude? true rest
    | _ => readMagnitude? false t

inductive Nest where
  | list
  | object
  deriving DecidableEq, Repr

inductive Unreadable where
  | malformed
  | tooDeep (nest : Nest)
  deriving DecidableEq, Repr

def ofOption {α : Type} (found : Option α) : Except Unreadable α :=
  found.elim (.error .malformed) .ok

/-- How deep lists and objects may lie in one another. -/
def deepest : Nat := 980

mutual

def readValue : Nat → Nat → Text → Except Unreadable (Datum × Text)
  | 0, _, _ => .error .malformed
  | fuel + 1, room, t =>
    match t, room with
    | '[' :: _, 0 => .error (.tooDeep .list)
    | '\x7b' :: _, 0 => .error (.tooDeep .object)
    | '[' :: rest, room + 1 =>
      match skipBlanks rest with
      | ']' :: rest => .ok (.list [], rest)
      | rest => (readItems fuel room rest).map fun (items, rest) => (.list items, rest)
    | '\x7b' :: rest, room + 1 =>
      match skipBlanks rest with
      | '\x7d' :: rest => .ok (.object [], rest)
      | rest => (readFields fuel room [] rest).map fun (fields, rest) => (.object fields, rest)
    | _, _ => ofOption (readScalar? t)

def readItems : Nat → Nat → Text → Except Unreadable (List Datum × Text)
  | 0, _, _ => .error .malformed
  | fuel + 1, room, t => do
    let (item, rest) ← readValue fuel room t
    match skipBlanks rest with
    | ']' :: rest => return ([item], rest)
    | ',' :: rest =>
      let (items, rest) ← readItems fuel room (skipBlanks rest)
      return (item :: items, rest)
    | _ => .error .malformed

def readFields : Nat → Nat → Fields → Text → Except Unreadable (Fields × Text)
  | 0, _, _, _ => .error .malformed
  | fuel + 1, room, fields, t => do
    let rest ← ofOption (after? ['"'] t)
    let (key, rest) ← ofOption (readText? t.length rest)
    let rest ← ofOption (after? [':'] (skipBlanks rest))
    let (item, rest) ← readValue fuel room (skipBlanks rest)
    match skipBlanks rest with
    | '\x7d' :: rest => return (Entries.put key item fields, rest)
    | ',' :: rest => readFields fuel room (Entries.put key item fields) (skipBlanks rest)
    | _ => .error .malformed

end

def read (t : Text) : Except Unreadable Datum := do
  let (value, rest) ← readValue (2 * t.length + 2) deepest (skipBlanks t)
  if (skipBlanks rest).isEmpty then return value else .error .malformed

end RequestLog.Datum

import RequestLog.Text.Blank
import RequestLog.Text.Digits

/-!
# Numerals

Whole numbers as texts. A plain numeral has a minus sign or none and digits, of which the first is a
zero only if it is the only one. A text that is none may become one: without the blanks at its ends,
a plus sign, zeros in front, a fraction of zeros behind, and single underscores between digits; a
minus sign stands before the zeros or behind them. A numeral has a greatest number of digits, beyond
which it is not read.
-/

namespace RequestLog.Numeral

open Digits

inductive Fault where
  | malformed
  | tooLong
  deriving DecidableEq, Repr

def mostDigits : Nat := 4300

def isLeading (c : Char) : Bool := c.isDigit && c != '0'

def magnitude? (digits : Text) : Option Nat :=
  if digits = ['0'] then some 0
  else if digits.head?.any isLeading && digits.all Char.isDigit then some (value digits)
  else none

def plain? (t : Text) : Option Int :=
  match t with
  | '-' :: digits => (magnitude? digits).map fun n => -(n : Int)
  | digits => (magnitude? digits).map fun n => (n : Int)

def exceeds (t : Text) : Bool :=
  let digits := (if t.head? = some '-' then t.drop 1 else t).takeWhile Char.isDigit
  digits.head?.any isLeading && mostDigits < digits.length

/-- What follows zeros and underscores, of which `last` is the last one: a number that begins with
another digit or a sign, a fraction behind that last character, or nothing but it. -/
def afterZeros? (last : Char) : Text → Option Text
  | [] => some [last]
  | c :: rest =>
    if c = '0' ∨ c = '_' then afterZeros? c rest
    else if isLeading c ∨ c = '-' then some (c :: rest)
    else if c = '.' then some (last :: c :: rest)
    else none

def withoutZeros? (t : Text) : Option Text :=
  match t with
  | [] => none
  | c :: rest =>
    if c = '0' then afterZeros? c rest else if isLeading c then some t else none

/-- A fraction goes if it has zeros only, at least one. -/
def withoutFraction (t : Text) : Text :=
  match cut '.' t with
  | (whole, some (c :: zeros)) => if (c :: zeros).all (· == '0') then whole else t
  | _ => t

/-- Underscores go where each stands alone between other characters. -/
def withoutUnderscores? (t : Text) : Option Text :=
  if (pieces '_' t).all (fun part => !part.isEmpty) then some (t.filter (· != '_')) else none

def unsigned? (t : Text) : Option Text := do
  let t ← withoutZeros? t
  withoutUnderscores? (withoutFraction t)

def clean? (t : Text) : Option Text :=
  match Blank.trim Blank.isWhite t with
  | '-' :: rest => (unsigned? rest).map ('-' :: ·)
  | '+' :: rest => unsigned? rest
  | rest => unsigned? rest

def read (t : Text) : Except Fault Int :=
  if exceeds t then .error .tooLong
  else
    match (plain? t).or ((clean? t).bind fun t => if exceeds t then none else plain? t) with
    | some n => .ok n
    | none => .error .malformed

end RequestLog.Numeral

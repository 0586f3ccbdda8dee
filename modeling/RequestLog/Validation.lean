import RequestLog.Datum
import RequestLog.Text.Numeral

/-!
# Validation

Checks of unvalidated values against the type and range of a field. A check gives the value or one
issue; the issues of all fields are reported together, in the order of the fields. A whole number
may also be given as a numeral.
-/

namespace RequestLog

open Digits

inductive IssueKind where
  | missing
  | notText
  | notWhole
  | notReadable
  | tooLong
  | notTime
  | notList
  | tooShort
  | below (least : Int)
  | above (greatest : Int)
  | frozen
  | refused (reason : Text)
  deriving DecidableEq, Repr

def IssueKind.code : IssueKind → Text
  | .missing => "missing".toList
  | .notText => "string_type".toList
  | .notWhole => "int_type".toList
  | .notReadable => "int_parsing".toList
  | .tooLong => "int_parsing_size".toList
  | .notTime => "datetime_type".toList
  | .notList => "list_type".toList
  | .tooShort => "string_too_short".toList
  | .below _ => "greater_than_equal".toList
  | .above _ => "less_than_equal".toList
  | .frozen => "frozen_instance".toList
  | .refused _ => "value_error".toList

def IssueKind.message : IssueKind → Text
  | .missing => "Field required".toList
  | .notText => "Input should be a valid string".toList
  | .notWhole => "Input should be a valid integer".toList
  | .notReadable => "Input should be a valid integer, unable to parse string as an integer".toList
  | .tooLong =>
    "Unable to parse input string as an integer, exceeded maximum size".toList
  | .notTime => "Input should be a valid datetime".toList
  | .notList => "Input should be a valid list".toList
  | .tooShort => "String should have at least 1 character".toList
  | .below least => "Input should be greater than or equal to ".toList ++ signed least
  | .above greatest => "Input should be less than or equal to ".toList ++ signed greatest
  | .frozen => "Instance is frozen".toList
  | .refused reason => "Value error, ".toList ++ reason

/-- Where an issue was found: in a field, and in which of its elements. -/
structure Issue where
  field : Text
  element : Option Nat
  kind : IssueKind
  deriving DecidableEq, Repr

theorem Except.bind_eq_ok_iff {ε α β : Type} {x : Except ε α} {f : α → Except ε β} {b : β} :
    (x >>= f) = .ok b ↔ ∃ a, x = .ok a ∧ f a = .ok b := by
  cases x with
  | error e => simp [bind, Except.bind]
  | ok a => simp [bind, Except.bind]

namespace Validation

abbrev Checked (α : Type) := Except IssueKind α

def text : Datum → Checked Text
  | .text t => .ok t
  | _ => .error .notText

def numeral (t : Text) : Checked Int :=
  match Numeral.read t with
  | .ok n => .ok n
  | .error .malformed => .error .notReadable
  | .error .tooLong => .error .tooLong

def whole : Datum → Checked Int
  | .int n => .ok n
  | .bool b => .ok (if b then 1 else 0)
  | .text t => numeral t
  | _ => .error .notWhole

def atLeast (least n : Int) : Checked Int := if n < least then .error (.below least) else .ok n

def atMost (greatest n : Int) : Checked Int :=
  if greatest < n then .error (.above greatest) else .ok n

theorem atLeast_eq_ok_iff {least n m : Int} : atLeast least n = .ok m ↔ least ≤ n ∧ m = n := by
  unfold atLeast
  split
  · simp; omega
  · simp [eq_comm]; omega

theorem atMost_eq_ok_iff {greatest n m : Int} :
    atMost greatest n = .ok m ↔ n ≤ greatest ∧ m = n := by
  unfold atMost
  split
  · simp; omega
  · simp [eq_comm]; omega

def between (least greatest n : Int) : Checked Int := atLeast least n >>= atMost greatest

theorem between_eq_ok_iff {least greatest n m : Int} :
    between least greatest n = .ok m ↔ least ≤ n ∧ n ≤ greatest ∧ m = n := by
  rw [between, Except.bind_eq_ok_iff]
  constructor
  · rintro ⟨kept, hLeast, hGreatest⟩
    obtain ⟨hLow, rfl⟩ := atLeast_eq_ok_iff.mp hLeast
    exact ⟨hLow, atMost_eq_ok_iff.mp hGreatest⟩
  · rintro ⟨hLow, hHigh, rfl⟩
    exact ⟨m, atLeast_eq_ok_iff.mpr ⟨hLow, rfl⟩, atMost_eq_ok_iff.mpr ⟨hHigh, rfl⟩⟩

end Validation

end RequestLog

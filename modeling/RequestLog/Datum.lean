import RequestLog.Entries
import RequestLog.Text.Quoted

/-!
# Unvalidated values

Values whose type is known only at run time: fields of a record before validation, settings read
from a file, arguments of a fault, and keys of a message that are passed on as they are.
-/

namespace RequestLog

open Digits

inductive Datum where
  | null
  | bool (b : Bool)
  | int (n : Int)
  | number (t : Text)
  | text (t : Text)
  | list (items : List Datum)
  | object (fields : List (Text × Datum))
  deriving Repr

abbrev Fields := List (Text × Datum)

namespace Datum

mutual

def decEq : (a b : Datum) → Decidable (a = b)
  | .null, .null => isTrue rfl
  | .bool a, .bool b => decidable_of_iff (a = b) (by simp)
  | .int a, .int b => decidable_of_iff (a = b) (by simp)
  | .number a, .number b => decidable_of_iff (a = b) (by simp)
  | .text a, .text b => decidable_of_iff (a = b) (by simp)
  | .list a, .list b =>
    match listDecEq a b with
    | isTrue h => isTrue (by rw [h])
    | isFalse h => isFalse (by simpa using h)
  | .object a, .object b =>
    match fieldsDecEq a b with
    | isTrue h => isTrue (by rw [h])
    | isFalse h => isFalse (by simpa using h)
  | .null, .bool _ | .null, .int _ | .null, .number _ | .null, .text _ | .null, .list _
  | .null, .object _ | .bool _, .null | .bool _, .int _ | .bool _, .number _ | .bool _, .text _
  | .bool _, .list _ | .bool _, .object _ | .int _, .null | .int _, .bool _ | .int _, .number _
  | .int _, .text _ | .int _, .list _ | .int _, .object _ | .number _, .null | .number _, .bool _
  | .number _, .int _ | .number _, .text _ | .number _, .list _ | .number _, .object _
  | .text _, .null | .text _, .bool _ | .text _, .int _ | .text _, .number _ | .text _, .list _
  | .text _, .object _ | .list _, .null | .list _, .bool _ | .list _, .int _ | .list _, .number _
  | .list _, .text _ | .list _, .object _ | .object _, .null | .object _, .bool _
  | .object _, .int _ | .object _, .number _ | .object _, .text _ | .object _, .list _ =>
    isFalse (by simp)

def listDecEq : (a b : List Datum) → Decidable (a = b)
  | [], [] => isTrue rfl
  | [], _ :: _ => isFalse (by simp)
  | _ :: _, [] => isFalse (by simp)
  | a :: as, b :: bs =>
    match decEq a b, listDecEq as bs with
    | isTrue h, isTrue hs => isTrue (by rw [h, hs])
    | isFalse h, _ => isFalse (by simp [h])
    | _, isFalse hs => isFalse (by simp [hs])

def fieldsDecEq : (a b : List (Text × Datum)) → Decidable (a = b)
  | [], [] => isTrue rfl
  | [], _ :: _ => isFalse (by simp)
  | _ :: _, [] => isFalse (by simp)
  | (k, a) :: as, (l, b) :: bs =>
    if hk : k = l then
      match decEq a b, fieldsDecEq as bs with
      | isTrue h, isTrue hs => isTrue (by rw [hk, h, hs])
      | isFalse h, _ => isFalse (by simp [h])
      | _, isFalse hs => isFalse (by simp [hs])
    else isFalse (by simp [hk])

end

instance : DecidableEq Datum := decEq

mutual

/-- The value as it stands inside a message. -/
def shown : Datum → Text
  | .null => "None".toList
  | .bool true => "True".toList
  | .bool false => "False".toList
  | .int n => signed n
  | .number t => t
  | .text t => Quoted.quote t
  | .list items => '[' :: shownItems items ++ [']']
  | .object fields => '\x7b' :: shownFields fields ++ ['\x7d']

def shownItems : List Datum → Text
  | [] => []
  | [item] => shown item
  | item :: rest => shown item ++ ',' :: ' ' :: shownItems rest

def shownFields : List (Text × Datum) → Text
  | [] => []
  | [(name, item)] => Quoted.quote name ++ ':' :: ' ' :: shown item
  | (name, item) :: rest =>
    Quoted.quote name ++ ':' :: ' ' :: shown item ++ ',' :: ' ' :: shownFields rest

end

/-- The value as it stands alone: a text without quotes. -/
def plain : Datum → Text
  | .text t => t
  | d => d.shown

/-- The whole number that a value is; a truth value is one or zero. -/
def whole? : Datum → Option Int
  | .int n => some n
  | .bool b => some (if b then 1 else 0)
  | _ => none

/-- Is the value nothing, zero, false, or without any parts? -/
def isEmpty : Datum → Bool
  | .null => true
  | .bool b => !b
  | .int n => n == 0
  | .number t => t.all fun c => !c.isAlphanum || c == '0'
  | .text t => t.isEmpty
  | .list items => items.isEmpty
  | .object fields => fields.isEmpty

def typeName : Datum → Text
  | .null => "NoneType".toList
  | .bool _ => "bool".toList
  | .int _ => "int".toList
  | .number _ => "float".toList
  | .text _ => "str".toList
  | .list _ => "list".toList
  | .object _ => "dict".toList

def shownTuple (items : List Datum) : Text :=
  match items with
  | [item] => '(' :: item.shown ++ [',', ')']
  | _ => '(' :: shownItems items ++ [')']

end Datum

namespace Fields

def update (fields others : Fields) : Fields :=
  others.foldl (fun all field => Entries.put field.1 field.2 all) fields

def without (fields : Fields) (keys : List Text) : Fields :=
  fields.filter fun field => !keys.contains field.1

end Fields

end RequestLog

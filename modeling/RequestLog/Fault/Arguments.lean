import RequestLog.Fault

/-!
# Faults from arguments

How a fault comes from the arguments it is raised with. Failures of the system are placed by their
number, and a blocked write takes the count of its octets from them, a word of 64 bits. The
library's own errors take what they are about and at last a context, in which they put it. Arguments
that do not fit make a fault of their own, which is then the one that is raised.
-/

namespace RequestLog

open Digits

/-! ## What applications, servers and writers raise -/

namespace Fault

/-- A failure that could not be placed by its name is placed by its number. -/
def placed (family : Family) (arguments : List Datum) : Family :=
  match family, numbered? arguments with
  | .system .other, some (number, _, _) =>
    (number.whole?.map fun n => .system (.ofNumber n)).getD family
  | _, _ => family

/-- A count of octets has to fit a word of 64 bits; the count -1 is no count. -/
def octetCount (n : Int) : Except Fault (Option Int) :=
  if n < -9223372036854775808 ∨ 9223372036854775807 < n then
    .error (badValue "cannot fit 'int' into an index-sized integer".toList)
  else .ok (if n = -1 then none else some n)

/-- A blocked write says as its third argument how many octets it wrote. -/
def writtenArgument (family : Family) (arguments : List Datum) : Except Fault (Option Int) :=
  match family, numbered? arguments with
  | .system .blocking, some (_, _, .number _ :: _) =>
    .error (badType "'float' object cannot be interpreted as an integer".toList)
  | .system .blocking, some (_, _, count :: _) => (count.whole?.map octetCount).getD (.ok none)
  | _, _ => .ok none

/-- A count of octets that is set on a fault; on one that is no failure of the system it says
nothing. -/
def assign (count : Int) (fault : Fault) : Except Fault Fault :=
  match fault with
  | .raised (.system family) arguments _ =>
    (octetCount count).map fun written => .raised (.system family) arguments written
  | other => .ok other

def tryOfArguments (family : Family) (arguments : List Datum) (assigned : Option Int) :
    Except Fault Fault := do
  let family := placed family arguments
  let written ← writtenArgument family arguments
  let fault : Fault := .raised family arguments written
  match assigned with
  | some count => assign count fault
  | none => return fault

def settled : Except Fault Fault → Fault
  | .ok fault | .error fault => fault

/-- A fault as raised with arguments, and with a count of octets set on it afterwards if there is
one. -/
def ofArguments (family : Family) (arguments : List Datum) (assigned : Option Int) : Fault :=
  settled (tryOfArguments family arguments assigned)

end Fault

/-! ## The library's own errors -/

namespace LogError.Kind

def required : Kind → List Text
  | .general | .flushUnsupported => []
  | .invalidStatus => ["status_code".toList]
  | .addressSplit => ["address".toList, "reason".toList]

/-- How many arguments an error of the kind can have, the last of which is its context. -/
def most : Kind → Nat
  | .general | .flushUnsupported | .invalidStatus => 2
  | .addressSplit => 3

def quotedName (name : Text) : Text := '\'' :: name ++ ['\'']

/-- What is wrong with a number of arguments, besides a context given by name. -/
def complaint? (kind : Kind) (count : Nat) (named : Bool) : Option Text :=
  let missing := kind.required.drop count
  if named && kind.most ≤ count then some "got multiple values for argument 'context'".toList
  else if kind.most < count then
    some ("takes from ".toList ++ decimal (kind.required.length + 1) ++ " to ".toList ++
      decimal (kind.most + 1) ++ " positional arguments but ".toList ++ decimal (count + 1) ++
      " were given".toList)
  else
    match missing with
    | [] => none
    | [name] => some ("missing 1 required positional argument: ".toList ++ quotedName name)
    | names => some ("missing ".toList ++ decimal names.length ++
        " required positional arguments: ".toList ++
        List.intercalate " and ".toList (names.map quotedName))

def defaultMessage : Text := "Access logging failed".toList

def defaultWriter : Text := "writer".toList

def build (kind : Kind) (arguments : List Datum) : LogError :=
  let argument := fun position default => arguments.getD position default
  match kind with
  | .general => .general (argument 0 (.text defaultMessage))
  | .flushUnsupported => .flushUnsupported (argument 0 (.text defaultWriter))
  | .invalidStatus => .invalidStatus (argument 0 .null)
  | .addressSplit => .addressSplit (argument 0 .null) (argument 1 .null)

/-- A context that is no object can be given to a general error only. -/
def checkContext (kind : Kind) (context : Datum) : Except Fault Unit :=
  match kind, context with
  | .general, _ | _, .object _ => .ok ()
  | _, .list (_ :: _) =>
    .error (.badType "list indices must be integers or slices, not str".toList)
  | _, other =>
    if other.isEmpty then .ok ()
    else
      .error (.badType (quotedName other.typeName ++
        " object does not support item assignment".toList))

/-- An error and its context, from arguments and maybe a context given by name. -/
def make (kind : Kind) (arguments : List Datum) (named : Option Datum) :
    Except Fault (LogError × Datum) :=
  match kind.complaint? arguments.length named.isSome with
  | some complaint => .error (.badType (kind.label ++ ".__init__() ".toList ++ complaint))
  | none =>
    let context := named.getD (arguments.getD (kind.most - 1) .null)
    (kind.checkContext context).map fun _ => (kind.build arguments, context)

def fault (kind : Kind) (arguments : List Datum) : Fault :=
  match kind.make arguments none with
  | .ok (error, context) => .own error context
  | .error fault => fault

end LogError.Kind

end RequestLog

import RequestLog.Text.Digits

/-!
# Addresses

A peer address is a host and a port joined by a colon. A host with colons of its own stands in
brackets. `split` accepts `host:port` without colons and brackets inside, and `[host]:port` without
brackets inside and without colons in the port; each refusal has a cause.
-/

namespace RequestLog.Address

open Digits

inductive Fault where
  | unclosed
  | noPort
  | textAfterBracket
  | bracketInBrackets
  | colons
  | bracketInHost
  | bracketInPort
  deriving DecidableEq, Repr

def Fault.reason : Fault → Text
  | .unclosed => "missing ']' in address".toList
  | .noPort => "missing port in address".toList
  | .textAfterBracket => "unexpected text after ']'".toList
  | .bracketInBrackets => "unexpected '[' in address".toList
  | .colons => "too many colons in address".toList
  | .bracketInHost => "unexpected bracket in address".toList
  | .bracketInPort => "unexpected bracket in port".toList

def hasBracket (t : Text) : Bool := t.contains '[' || t.contains ']'

def checkPort (host port : Text) : Except Fault (Text × Text) :=
  if hasBracket port then .error .bracketInPort else .ok (host, port)

def splitBracketed (inside : Text) : Except Fault (Text × Text) :=
  match cut ']' inside with
  | (_, none) => .error .unclosed
  | (_, some []) => .error .noPort
  | (host, some (c :: port)) =>
    if c ≠ ':' then .error .textAfterBracket
    else if host.contains '[' then .error .bracketInBrackets
    else if port.contains ':' then .error .colons
    else checkPort host port

def splitPlain (address : Text) : Except Fault (Text × Text) :=
  match cutLast ':' address with
  | (none, _) => .error .noPort
  | (some host, port) =>
    if host.contains ':' then .error .colons
    else if hasBracket host then .error .bracketInHost
    else checkPort host port

def split (address : Text) : Except Fault (Text × Text) :=
  match address with
  | '[' :: inside => splitBracketed inside
  | _ => splitPlain address

inductive Port where
  | number (n : Int)
  | named (t : Text)
  | absent
  deriving DecidableEq, Repr

def Port.text : Port → Text
  | .number n => signed n
  | .named t => t
  | .absent => "None".toList

def join (host : Text) (port : Port) : Text :=
  if host.contains ':' then '[' :: host ++ ']' :: ':' :: port.text else host ++ ':' :: port.text

/-- The host of an address, and an address that cannot be split as it is. -/
def host (address : Text) : Text :=
  match split address with
  | .ok (host, _) => host
  | .error _ => address

end RequestLog.Address

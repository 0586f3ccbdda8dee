import RequestLog.Text.Digits

/-!
# IP addresses

The written forms of addresses that may stand between brackets: four decimal octets without leading
zeros, or up to eight groups of hexadecimal digits with one gap `::` for missing groups, the last
two groups also as four octets, and a zone after `%`.
-/

namespace RequestLog.IpAddress

open Digits

def isOctet (t : Text) : Bool :=
  !t.isEmpty && t.all Char.isDigit && t.length ≤ 3 && (t == ['0'] || t.head? != some '0') &&
    value t ≤ 255

def isV4 (t : Text) : Bool :=
  let octets := pieces '.' t
  octets.length == 4 && octets.all isOctet

def isGroup (t : Text) : Bool := !t.isEmpty && t.all isHex && t.length ≤ 4

/-- An address without a zone, if the zone is well formed. -/
def withoutZone? (t : Text) : Option Text :=
  match cut '%' t with
  | (address, none) => some address
  | (address, some zone) => if zone.isEmpty || zone.contains '%' then none else some address

/-- The groups of an address; four octets at the end count as two groups. -/
def groups? (t : Text) : Option (List Text) :=
  let parts := pieces ':' t
  let last := parts.getLastD []
  if parts.length < 3 then none
  else if last.contains '.' then
    if isV4 last then some (parts.dropLast ++ [['0'], ['0']]) else none
  else some parts

/-- The groups on one side of a gap; `[[]]` where the gap is at the end of the address. -/
def sideGroups? (side : List Text) : Option Nat :=
  if side == [[]] then some 0 else if side.all isGroup then some side.length else none

/-- The positions of empty groups, the first and last group aside. -/
def gaps (parts : List Text) : List Nat :=
  (List.range parts.length).filter fun i =>
    0 < i && i + 1 < parts.length && (parts.getD i []).isEmpty

def groupsFit (parts : List Text) : Bool :=
  match gaps parts with
  | [] => parts.length == 8 && parts.all isGroup
  | [gap] =>
    match sideGroups? (parts.take gap), sideGroups? (parts.drop (gap + 1)) with
    | some before, some after => before + after < 8
    | _, _ => false
  | _ => false

def isV6 (t : Text) : Bool :=
  match (withoutZone? t).bind groups? with
  | some parts => parts.length ≤ 9 && groupsFit parts
  | none => false

end RequestLog.IpAddress

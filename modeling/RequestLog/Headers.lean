import RequestLog.Text.Latin1
import RequestLog.Text.LowerCase

/-!
# Header fields

Header fields are pairs of octet lists in the order of the wire. A field is found by the small form
of its name, exactly, and the first match wins; a name that does not fit the wire's encoding is a
fault. Setting a field keeps the place of the first match and removes the others.
-/

namespace RequestLog

abbrev Headers := List (Octets × Octets)

namespace Headers

def wireName (name : Text) : Except Latin1.Unencodable Octets :=
  Latin1.encode (LowerCase.lower name)

def first? (headers : Headers) (name : Octets) : Option Text :=
  (headers.find? (·.1 == name)).map fun field => Latin1.decode field.2

def get? (headers : Headers) (name : Text) : Except Latin1.Unencodable (Option Text) :=
  (wireName name).map headers.first?

def asciiName (name : String) : Octets := name.toList.map fun c => UInt8.ofNat c.toNat

/-- Fields given as texts, in the order given; the first text that does not fit is the fault. -/
def ofTexts : List (Text × Text) → Except Latin1.Unencodable Headers
  | [] => .ok []
  | (name, value) :: rest => do
    let name ← wireName name
    let value ← Latin1.encode value
    let rest ← ofTexts rest
    return (name, value) :: rest

def toTexts (headers : Headers) : List (Text × Text) :=
  headers.map fun field => (Latin1.decode field.1, Latin1.decode field.2)

def erase (headers : Headers) (name : Octets) : Headers := headers.filter (·.1 != name)

def put : Headers → Octets → Octets → Headers
  | [], name, value => [(name, value)]
  | field :: rest, name, value =>
    if field.1 = name then (name, value) :: erase rest name else field :: put rest name value

end Headers

end RequestLog

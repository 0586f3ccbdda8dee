import RequestLog.Text.Percent

/-!
# Queries

A query is a list of items between `&`, empty pieces aside; an item is a name and, after its first
`=`, a value. In both, `+` is a space and escapes are read. Reading is defined on octets, so that a
text and its UTF-8 form have the same items. Writing escapes all but unreserved characters.
-/

namespace RequestLog.Query

def plusToSpace (octets : Octets) : Octets := octets.map fun b => if b = 43 then 32 else b

def component (octets : Octets) : Octets := Percent.unescape (plusToSpace octets)

def itemOf (piece : Octets) : Octets × Octets :=
  (component (cut 61 piece).1, component ((cut 61 piece).2.getD []))

def octetItems (query : Octets) : List (Octets × Octets) :=
  ((pieces 38 query).filter (!·.isEmpty)).map itemOf

/-- The items of a query as pairs of texts; octets that are not UTF-8 become U+FFFD. -/
def items (query : Text) : List (Text × Text) :=
  (octetItems (Utf8.encode query)).map fun item =>
    (Utf8.decodeLossy item.1, Utf8.decodeLossy item.2)

def values (name : Text) (list : List (Text × Text)) : List Text :=
  (list.filter (·.1 == name)).map (·.2)

/-- The first value of a name, if it is there and not empty. -/
def firstValue? (name : Text) (list : List (Text × Text)) : Option Text :=
  match values name list with
  | value :: _ => if value.isEmpty then none else some value
  | [] => none

def renderOctet (b : UInt8) : Text :=
  if b = 32 then ['+'] else Percent.escapeBy Percent.isUnreserved b

def renderComponent (t : Text) : Text := (Utf8.encode t).flatMap renderOctet

def renderItem (item : Text × Text) : Text :=
  renderComponent item.1 ++ '=' :: renderComponent item.2

def render (list : List (Text × Text)) : Text := List.intercalate ['&'] (list.map renderItem)

end RequestLog.Query

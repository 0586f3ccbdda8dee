import RequestLog.Text.Basic

/-!
# Entries

Lists of keys with a value each, in the order in which the keys were first given. `get?` reads what
`put` gave a key, and the values of other keys stay as they were.
-/

namespace RequestLog.Entries

variable {κ α : Type} [DecidableEq κ]

def get? (entries : List (κ × α)) (key : κ) : Option α :=
  (entries.find? (·.1 == key)).map (·.2)

/-- Gives a key a value in its place, or adds the key at the end. -/
def put (key : κ) (value : α) : List (κ × α) → List (κ × α)
  | [] => [(key, value)]
  | entry :: rest => if entry.1 = key then (key, value) :: rest else entry :: put key value rest

end RequestLog.Entries

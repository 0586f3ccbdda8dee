import RequestLog.Request

/-!
# Redaction

A parameter is sensitive in a query when it is listed and its first value is not empty. A query with
sensitive parameters is written anew: their items go, one item with the marker comes for each, and
all items are sorted by name, items of one name in the order they had. Any other query is left
alone.
-/

namespace RequestLog.Redaction

abbrev Item := Text × Text

def precedes (a b : Item) : Bool := !decide (b.1 < a.1)

/-- Puts an item before the first one that it precedes strictly. -/
def insertAfterEqual (item : Item) : List Item → List Item
  | [] => [item]
  | first :: rest =>
    if precedes first item then first :: insertAfterEqual item rest else item :: first :: rest

def sortByName (items : List Item) : List Item :=
  items.foldl (fun sorted item => insertAfterEqual item sorted) []

/-- The listed names that are sensitive in a query, each once. -/
def sensitive (names : List Text) (items : List Item) : List Text :=
  (names.filter fun name => (Query.firstValue? name items).isSome).eraseDups

/-- The items of the query that is written in place of one with sensitive parameters. -/
def redactItems (found : List Text) (marker : Text) (items : List Item) : List Item :=
  sortByName (items.filter (fun item => !found.contains item.1) ++
    found.map fun name => (name, marker))

def redactQuery? (names : List Text) (marker query : Text) : Option Text :=
  let items := Query.items query
  let found := sensitive names items
  if found.isEmpty then none else some (Query.render (redactItems found marker items))

def redactParts (names : List Text) (marker : Text) (url : Text) (parts : Uri.Parts) : Text :=
  match redactQuery? names marker parts.query with
  | some query => Uri.unsplit { parts with query := query }
  | none => url

/-- The URL with its sensitive parameters replaced, and the very same URL if it has none. -/
def redact (names : List Text) (marker url : Text) : Except Fault Text :=
  (Uri.read url).map (redactParts names marker url)

def defaultNames : List Text := [['p']]

def defaultMarker : Text := "[REDACTED]".toList

end RequestLog.Redaction

import RequestLog.Text.LowerCase
import RequestLog.Validation

/-!
# Settings

What is configured: the level and form of the log, what is redacted and how, which parameter and
field are read, and what stands for an empty field. Settings are made by validation only, one issue
for each field that is not acceptable; the placeholder is never empty.
-/

namespace RequestLog

inductive Level where
  | debug
  | info
  | warning
  | error
  | critical
  deriving DecidableEq, Repr

namespace Level

def all : List Level := [.debug, .info, .warning, .error, .critical]

def name : Level → Text
  | .debug => "DEBUG".toList
  | .info => "INFO".toList
  | .warning => "WARNING".toList
  | .error => "ERROR".toList
  | .critical => "CRITICAL".toList

def severity : Level → Int
  | .debug => 10
  | .info => 20
  | .warning => 30
  | .error => 40
  | .critical => 50

/-- The capital form of a letter, as far as a level's name can have one: besides the small ASCII
letters only the dotless i has an ASCII capital among them. -/
def capital (c : Char) : Char := if c = 'ı' then 'I' else c.toUpper

def ofName? (t : Text) : Option Level := all.find? fun level => level.name == t.map capital

def severityName (severity : Int) : Text :=
  match all.find? fun level => level.severity == severity with
  | some level => level.name
  | none => "Level ".toList ++ Digits.signed severity

end Level

inductive LineFormat where
  | common
  | json
  deriving DecidableEq, Repr

namespace LineFormat

def name : LineFormat → Text
  | .common => "common".toList
  | .json => "json".toList

/-- A format by its name in any case; no other letter has a small form among those of the names. -/
def ofName? (t : Text) : Option LineFormat :=
  [LineFormat.common, .json].find? fun format => format.name == t.map Char.toLower

end LineFormat

structure Settings where
  logLevel : Level := .info
  logFormat : LineFormat := .common
  loggerName : Text := "accesslog.access".toList
  redactedParams : List Text := [['p']]
  redactionMarker : Text := "[REDACTED]".toList
  usernameParam : Text := ['u']
  requestIdHeader : Text := "Request-Id".toList
  placeholder : Text := ['-']
  errorTag : Text := "encountered error".toList
  excludedPaths : List Text := []
  placeholder_ne : placeholder ≠ [] := by decide
  deriving DecidableEq, Repr

namespace Validation

/-- A value, or the issues of all fields that stand in its way. -/
abbrev Validated (α : Type) := Except (List Issue) α

/-- Supplies the next argument; the issues of earlier arguments come first. -/
def supply {α β : Type} (a : Validated α) (f : Validated (α → β)) : Validated β :=
  match f, a with
  | .ok f, .ok a => .ok (f a)
  | .ok _, .error issues => .error issues
  | .error issues, .ok _ => .error issues
  | .error issues, .error more => .error (issues ++ more)

def inField {α : Type} (field : String) : Checked α → Validated α
  | .ok a => .ok a
  | .error kind => .error [⟨field.toList, none, kind⟩]

def elementIssues (field : Text) (position : Nat) : List Datum → List Issue
  | [] => []
  | .text _ :: rest => elementIssues field (position + 1) rest
  | _ :: rest => ⟨field, some position, .notText⟩ :: elementIssues field (position + 1) rest

def textElement? : Datum → Option Text
  | .text t => some t
  | _ => none

def texts (field : String) : Datum → Validated (List Text)
  | .list items =>
    match elementIssues field.toList 0 items with
    | [] => .ok (items.filterMap textElement?)
    | issues => .error issues
  | _ => .error [⟨field.toList, none, .notList⟩]

end Validation

namespace Settings

open Validation

/-- The value of a setting, whose name may stand in any case; of several the first counts. -/
def find? (fields : Fields) (key : String) : Option Datum :=
  (fields.find? fun field => LowerCase.lower field.1 == key.toList).map (·.2)

/-- A field that is checked when it is given and has its default otherwise. -/
def given {α : Type} (fields : Fields) (key : String) (default : α) (check : Datum → Checked α) :
    Validated α :=
  match find? fields key with
  | some value => inField key (check value)
  | none => .ok default

def givenTexts (fields : Fields) (key : String) (default : List Text) : Validated (List Text) :=
  match find? fields key with
  | some value => texts key value
  | none => .ok default

def level (value : Datum) : Checked Level := do
  let t ← text value
  match Level.ofName? t with
  | some level => .ok level
  | none => .error (.refused ("Invalid log_level '".toList ++ t ++ "'.".toList))

def lineFormat (value : Datum) : Checked LineFormat := do
  let t ← text value
  match LineFormat.ofName? t with
  | some format => .ok format
  | none =>
    .error (.refused ("Invalid log_format '".toList ++ t ++
      "'. Must be 'common' or 'json'".toList))

def nonEmptyText (value : Datum) : Checked { t : Text // t ≠ [] } := do
  match ← text value with
  | [] => .error .tooShort
  | c :: rest => .ok ⟨c :: rest, by simp⟩

def default : Settings := {}

/-- The settings that an object gives; keys that are no settings do not count. -/
def ofFields (fields : Fields) : Validated Settings :=
  let make := fun logLevel logFormat loggerName redactedParams redactionMarker usernameParam
      requestIdHeader (placeholder : { t : Text // t ≠ [] }) errorTag excludedPaths =>
    Settings.mk logLevel logFormat loggerName redactedParams redactionMarker usernameParam
      requestIdHeader placeholder.1 errorTag excludedPaths placeholder.2
  Except.ok make
    |> supply (given fields "log_level" default.logLevel level)
    |> supply (given fields "log_format" default.logFormat lineFormat)
    |> supply (given fields "logger_name" default.loggerName text)
    |> supply (givenTexts fields "redacted_params" default.redactedParams)
    |> supply (given fields "redaction_marker" default.redactionMarker text)
    |> supply (given fields "username_param" default.usernameParam text)
    |> supply (given fields "request_id_header" default.requestIdHeader text)
    |> supply
      (given fields "placeholder" ⟨default.placeholder, default.placeholder_ne⟩ nonEmptyText)
    |> supply (given fields "error_tag" default.errorTag text)
    |> supply (givenTexts fields "excluded_paths" default.excludedPaths)

end Settings

end RequestLog

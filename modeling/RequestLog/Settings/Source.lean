import RequestLog.Datum.Reader
import RequestLog.Settings
import RequestLog.Settings.File

/-!
# Sources of settings

Settings come from arguments, from the environment and from a file of `NAME=value` lines; what an
earlier source gives wins. The names of settings stand in any case, in the last two behind a common
beginning; there lists are written as JSON, a list that cannot be read or has lists lying too deep
is a fault whether or not an earlier source gives it, and a list given as null is not given.
-/

namespace RequestLog.Settings

inductive Source where
  | environment
  | file
  deriving DecidableEq, Repr

def Source.label : Source → Text
  | .environment => "EnvSettingsSource".toList
  | .file => "DotEnvSettingsSource".toList

inductive Fault where
  | unreadable (field : Text) (source : Source)
  | tooDeep (nest : Datum.Nest)
  | invalid (issues : List Issue)
  deriving DecidableEq, Repr

def nestName : Datum.Nest → Text
  | .list => "array".toList
  | .object => "object".toList

def Fault.message : Fault → Text
  | .unreadable field source =>
    "error parsing value for field \"".toList ++ field ++ "\" from source \"".toList ++
      source.label ++ ['"']
  | .tooDeep nest =>
    "maximum recursion depth exceeded while decoding a JSON ".toList ++ nestName nest ++
      " from a unicode string".toList
  | .invalid issues => List.intercalate ['\n'] (issues.map fun issue => issue.kind.message)

inductive Form where
  | plain
  | json
  deriving DecidableEq, Repr

def forms : List (Text × Form) :=
  [("log_level".toList, .plain), ("log_format".toList, .plain), ("logger_name".toList, .plain),
    ("redacted_params".toList, .json), ("redaction_marker".toList, .plain),
    ("username_param".toList, .plain), ("request_id_header".toList, .plain),
    ("placeholder".toList, .plain), ("error_tag".toList, .plain), ("excluded_paths".toList, .json)]

def outerName (field : Text) : Text := "accesslog_".toList ++ field

/-- What the last entry whose name is that of the setting in some case gives. -/
def lookUp? (entries : List (Text × Option Text)) (field : Text) : Option Text :=
  (entries.reverse.find? fun entry => LowerCase.lower entry.1 == outerName field).bind (·.2)

def readField (source : Source) (entries : List (Text × Option Text)) (field : Text) (form : Form) :
    Except Fault Fields :=
  match lookUp? entries field, form with
  | none, _ => .ok []
  | some value, .plain => .ok [(field, .text value)]
  | some value, .json =>
    match Datum.read value with
    | .error .malformed => .error (.unreadable field source)
    | .error (.tooDeep nest) => .error (.tooDeep nest)
    | .ok .null => .ok []
    | .ok datum => .ok [(field, datum)]

def readAll (source : Source) (entries : List (Text × Option Text)) : Except Fault Fields :=
  (forms.mapM fun (field, form) => readField source entries field form).map List.flatten

/-- Arguments win over the environment, and that over the file. -/
def load (arguments : Fields) (environment : List (Text × Text)) (file : Option Text) :
    Except Fault Settings := do
  let fromEnvironment ←
    readAll .environment (environment.map fun entry => (entry.1, some entry.2))
  let fromFile ← readAll .file (File.entries (file.getD []))
  match ofFields (arguments ++ fromEnvironment ++ fromFile) with
  | .ok settings => .ok settings
  | .error issues => .error (.invalid issues)

end RequestLog.Settings

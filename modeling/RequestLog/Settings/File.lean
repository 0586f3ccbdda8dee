import RequestLog.Entries
import RequestLog.Text.Blank

/-!
# Files of settings

A file of settings has lines of the form `NAME=value`. Blanks around a name and a value do not
count, a number sign begins a comment, in a value only behind a blank, and a value in quotes is
taken as it is. A line feed, a carriage return or both end a line. A name that stands alone is given
no value; a line of no such form gives nothing.
-/

namespace RequestLog.Settings.File

open Blank

/-- The mark of the encoding, which may stand before all lines. -/
def withoutMark : Text → Text
  | [] => []
  | c :: rest => if c = '\ufeff' then rest else c :: rest

/-- The lines of a file; a carriage return before a line feed makes one more line, an empty one. -/
def lines (content : Text) : List Text :=
  pieces '\n' (content.map fun c => if c = '\r' then '\n' else c)

def withoutComment : Text → Text
  | [] => []
  | c :: rest =>
    if isSpace c && (rest.dropWhile isSpace).head? = some '#' then []
    else c :: withoutComment rest

def isDone (t : Text) : Bool :=
  match t.dropWhile isSpace with
  | [] => true
  | c :: _ => c = '#'

/-- A value up to its closing quote, if nothing follows that. -/
def quoted? (quote : Char) (t : Text) : Option Text :=
  match cut quote t with
  | (value, some rest) => if isDone rest then some value else none
  | (_, none) => none

def value? (t : Text) : Option Text :=
  match t.dropWhile isSpace with
  | '"' :: rest => quoted? '"' rest
  | '\'' :: rest => quoted? '\'' rest
  | _ => some (trim isSpace (withoutComment t))

def isNameChar (c : Char) : Bool := c != '=' && c != '#' && !isSpace c

/-- The word that makes a line a command of a shell. -/
def command : Text := "export".toList

def withoutCommand (line : Text) : Text :=
  let rest := line.drop command.length
  if command.isPrefixOf line && rest.head?.any isSpace then rest.dropWhile isSpace else line

def entry? (line : Text) : Option (Text × Option Text) :=
  let line := withoutCommand (line.dropWhile isSpace)
  let name := line.takeWhile isNameChar
  let rest := (line.dropWhile isNameChar).dropWhile isSpace
  if name.isEmpty then none
  else
    match rest with
    | '=' :: value => (value? value).map fun value => (name, some value)
    | _ => if isDone rest then some (name, none) else none

/-- The names of a file in the order in which they were first given, each with its last value. -/
def entries (content : Text) : List (Text × Option Text) :=
  ((lines (withoutMark content)).filterMap entry?).foldl
    (fun all entry => Entries.put entry.1 entry.2 all) []

end RequestLog.Settings.File

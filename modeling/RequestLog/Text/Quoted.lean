import RequestLog.Text.Latin1
import RequestLog.Text.Printable

/-!
# Quoted texts

How a text is shown inside a message: between apostrophes, or between double quotes if it holds an
apostrophe and no double quote. The quote, the backslash and what is not printable are escaped.
-/

namespace RequestLog.Quoted

def escapeChar (quote c : Char) : Text :=
  if c = quote ∨ c = '\\' then ['\\', c]
  else if c = '\n' then ['\\', 'n']
  else if c = '\r' then ['\\', 'r']
  else if c = '\t' then ['\\', 't']
  else if Printable.isPrintable c then [c]
  else Latin1.escapedCode c

def quoteFor (t : Text) : Char := if t.contains '\'' && !t.contains '"' then '"' else '\''

def quote (t : Text) : Text := quoteFor t :: t.flatMap (escapeChar (quoteFor t)) ++ [quoteFor t]

end RequestLog.Quoted

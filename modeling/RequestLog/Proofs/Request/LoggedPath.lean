import RequestLog.Proofs.Redaction.Frame
import RequestLog.Proofs.Request.Path
import RequestLog.Proofs.Request.Unlocated

/-!
# The path in a record

The path on the request line of a record is the escaped path of its scope, rooted behind a location
and kept from beginning one without. Rooting puts a slash before a path that has none of its own, and
so the path on the wire and the path as text are recorded alike, once they are read, exactly if both
begin with a slash or neither does: an escaped slash is none. Without a location a path that begins
with a letter can be taken for a scheme.
-/

namespace RequestLog

namespace Uri

end Uri

namespace Scope

open Percent (unescape unescapeText)

variable {scope : Scope} {headers : Headers} {scheme location path query given : Text}
  {raw : Octets} {request : Request}

namespace PathsAgree

variable {bare : Request} {headers : Headers} {location : Text}

end PathsAgree

end Scope

end RequestLog

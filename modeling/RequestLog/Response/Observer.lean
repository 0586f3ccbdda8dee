import RequestLog.Response.Writer

/-!
# Observers

An observer stands before a writer, passes every call on, and keeps the status and the number of
octets that went out. The status is unset until a write, a status or a reading of the status sets
it; a status outside 100 to 599 is refused and does not reach the writer.
-/

namespace RequestLog

open Digits

structure Observer (σ : Type) where
  writer : σ
  status? : Option Int := none
  size : Int := 0
  deriving DecidableEq, Repr

namespace Observer

variable {σ : Type} [ResponseWriter σ]

def impliedStatus : Int := 200

def wroteHeader (o : Observer σ) : Bool := o.status?.isSome

/-- The status from now on, 200 if nothing has set it. -/
def status (o : Observer σ) : Int := o.status?.getD impliedStatus

def settle (o : Observer σ) : Observer σ := { o with status? := some o.status }

def readStatus (o : Observer σ) : Int × Observer σ := (o.status, o.settle)

/-- A failed write counts as many octets as its fault reports. -/
def written : Except Fault Int → Int
  | .ok count => count
  | .error fault => fault.octetsWritten

def write (data : Octets) (more : Bool) (o : Observer σ) : Except Fault Int × Observer σ :=
  let (result, writer) := ResponseWriter.write data more o.writer
  (result, { o.settle with writer := writer, size := o.size + written result })

def isStatus (code : Int) : Bool := 100 ≤ code && code ≤ 599

theorem isStatus_iff {code : Int} : isStatus code = true ↔ 100 ≤ code ∧ code ≤ 599 := by
  simp [isStatus]

def writeHeader (code : Int) (o : Observer σ) : Except Fault Unit × Observer σ :=
  if isStatus code then
    match ResponseWriter.writeHeader code o.writer with
    | (.ok (), writer) => (.ok (), { o with writer := writer, status? := some code })
    | (.error fault, writer) => (.error fault, { o with writer := writer })
  else (.error (.invalidStatus code), o)

def flush (o : Observer σ) : Except Fault Unit × Observer σ :=
  match ResponseWriter.flush? o.writer with
  | some (result, writer) => (result, { o with writer := writer })
  | none => (.error (.flushUnsupported (ResponseWriter.name o.writer)), o)

def setHeader (name value : Text) (o : Observer σ) : Except Fault Unit × Observer σ :=
  let (result, writer) := ResponseWriter.setHeader name value o.writer
  (result, { o with writer := writer })

def eraseHeader (name : Text) (o : Observer σ) : Except Fault Unit × Observer σ :=
  let (result, writer) := ResponseWriter.eraseHeader name o.writer
  (result, { o with writer := writer })

/-- An observer is a writer itself, one that can always be asked to flush. -/
instance : ResponseWriter (Observer σ) where
  name _ := "ResponseObserver".toList
  write := write
  writeHeader := writeHeader
  flush? o := some o.flush
  header? name o := ResponseWriter.header? name o.writer
  setHeader := setHeader
  eraseHeader := eraseHeader
  headers o := ResponseWriter.headers o.writer

def shown (o : Observer σ) : Text :=
  "<ResponseObserver status=".toList ++ (o.status?.map signed).getD "None".toList ++
    " size=".toList ++ signed o.size ++ ['>']

end Observer

end RequestLog

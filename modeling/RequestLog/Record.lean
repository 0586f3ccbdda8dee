import RequestLog.Settings
import RequestLog.Time.Elapsed
import RequestLog.Time.Stamp

/-!
# Records

One record tells of one finished request; an error record has a tag and a detail besides. A record
is made by validation: its status lies between 100 and 599 and its size is no negative number.
-/

namespace RequestLog

structure AccessRecord where
  host : Text
  user : Text
  start : Stamp
  method : Text
  uri : Text
  proto : Text
  status : Nat
  size : Nat
  referrer : Text
  userAgent : Text
  requestId : Text
  /-- Microseconds from the start to the making of the record. -/
  elapsed : Int
  status_range : 100 ≤ status ∧ status ≤ 599
  deriving DecidableEq, Repr

structure ErrorRecord extends AccessRecord where
  tag : Text
  detail : Text
  deriving DecidableEq, Repr

inductive LogRecord where
  | access (record : AccessRecord)
  | error (record : ErrorRecord)
  deriving DecidableEq, Repr

def LogRecord.base : LogRecord → AccessRecord
  | .access record => record
  | .error record => record.toAccessRecord

namespace Record

open Validation

abbrev Status := { n : Nat // 100 ≤ n ∧ n ≤ 599 }

def status (n : Int) : Checked Status :=
  match h : between 100 599 n with
  | .ok m => .ok ⟨m.toNat, by have := between_eq_ok_iff.mp h; omega⟩
  | .error kind => .error kind

def size (n : Int) : Checked Nat := (atLeast 0 n).map Int.toNat

theorem status_eq_ok_iff {n : Int} {s : Status} : status n = .ok s ↔ n = s.1 := by
  have hs := s.2
  unfold status
  split
  · next m h =>
    have hBounds := between_eq_ok_iff.mp h
    rw [Except.ok.injEq, Subtype.ext_iff]
    change m.toNat = s.1 ↔ n = s.1
    omega
  · next kind h =>
    refine iff_of_false nofun ?_
    rintro rfl
    have hInside : between 100 599 s.1 = .ok (s.1 : Int) :=
      between_eq_ok_iff.mpr ⟨by omega, by omega, rfl⟩
    cases h.symm.trans hInside

theorem size_eq_ok_iff {n : Int} {s : Nat} : size n = .ok s ↔ n = s := by
  unfold size
  cases h : atLeast 0 n with
  | error kind =>
    refine iff_of_false nofun ?_
    rintro rfl
    cases h.symm.trans (atLeast_eq_ok_iff.mpr ⟨Int.natCast_nonneg s, rfl⟩)
  | ok m =>
    obtain ⟨hLow, rfl⟩ := atLeast_eq_ok_iff.mp h
    change Except.ok m.toNat = .ok s ↔ _
    rw [Except.ok.injEq]
    omega

structure Draft where
  host : Text
  user : Text
  start : Stamp
  method : Text
  uri : Text
  proto : Text
  status : Int
  size : Int
  referrer : Text
  userAgent : Text
  requestId : Text
  elapsed : Int
  deriving DecidableEq, Repr

def Draft.check (d : Draft) : Validated AccessRecord :=
  let make := fun (status : Status) size =>
    { host := d.host, user := d.user, start := d.start, method := d.method, uri := d.uri
      proto := d.proto, status := status.1, size := size, referrer := d.referrer
      userAgent := d.userAgent, requestId := d.requestId, elapsed := d.elapsed
      status_range := status.2 }
  Except.ok make
    |> supply (inField "status" (Record.status d.status))
    |> supply (inField "size" (Record.size d.size))

/-- The fields of a record whose types are not known. -/
structure Raw where
  fields : Fields
  /-- Nothing when it is missing, and no stamp when it is something else. -/
  start : Option (Option Stamp)
  elapsed : Option Int

def Raw.find (raw : Raw) (key : String) : Checked Datum :=
  (Entries.get? raw.fields key.toList).elim (.error .missing) .ok

def Raw.text (raw : Raw) (key : String) : Validated Text :=
  inField key (raw.find key >>= Validation.text)

def Raw.startTime (raw : Raw) : Checked Stamp :=
  match raw.start with
  | none => .error .missing
  | some none => .error .notTime
  | some (some stamp) => .ok stamp

def Raw.check (raw : Raw) : Validated AccessRecord :=
  let make := fun host user start method uri proto (status : Status) size referrer userAgent
      requestId elapsed =>
    { host := host, user := user, start := start, method := method, uri := uri, proto := proto
      status := status.1, size := size, referrer := referrer, userAgent := userAgent
      requestId := requestId, elapsed := elapsed, status_range := status.2 }
  Except.ok make
    |> supply (raw.text "host")
    |> supply (raw.text "user")
    |> supply (inField "start_time" raw.startTime)
    |> supply (raw.text "method")
    |> supply (raw.text "uri")
    |> supply (raw.text "proto")
    |> supply (inField "status" (raw.find "status" >>= whole >>= Record.status))
    |> supply (inField "size" (raw.find "size" >>= whole >>= Record.size))
    |> supply (raw.text "referrer")
    |> supply (raw.text "user_agent")
    |> supply (raw.text "request_id")
    |> supply (inField "elapsed" (raw.elapsed.elim (.error .missing) .ok))

def Raw.checkError (raw : Raw) : Validated ErrorRecord :=
  Except.ok ErrorRecord.mk
    |> supply raw.check
    |> supply (raw.text "tag")
    |> supply (raw.text "detail")

/-- Records do not change: every assignment to a field is an issue. -/
def assign (field : Text) : List Issue := [⟨field, none, .frozen⟩]

end Record

end RequestLog

import RequestLog.Logger
import RequestLog.Record.Line

/-!
# Sinks

Where finished records go. A sink takes access records and error records by calls of their own and
may refuse one with a fault. A memory sink keeps what it is given; a logging sink makes one entry
per record, unless the entry's severity is below the threshold of its logger.
-/

namespace RequestLog

inductive Emission where
  | access
  | error
  deriving DecidableEq, Repr

class Sink (κ : Type) where
  emit : Emission → LogRecord → κ → Except Fault Unit × κ

structure MemorySink where
  /-- Oldest first. -/
  access : List LogRecord := []
  errors : List LogRecord := []
  deriving DecidableEq, Repr

namespace MemorySink

def records (s : MemorySink) : List LogRecord := s.access ++ s.errors

def keep (call : Emission) (record : LogRecord) (s : MemorySink) : MemorySink :=
  match call with
  | .access => { s with access := s.access ++ [record] }
  | .error => { s with errors := s.errors ++ [record] }

section

variable (record : LogRecord) (s : MemorySink)

@[simp] theorem access_keep_access : (s.keep .access record).access = s.access ++ [record] := rfl

@[simp] theorem errors_keep_access : (s.keep .access record).errors = s.errors := rfl

@[simp] theorem access_keep_error : (s.keep .error record).access = s.access := rfl

@[simp] theorem errors_keep_error : (s.keep .error record).errors = s.errors ++ [record] := rfl

theorem keep_cases (call : Emission) :
    ((s.keep call record).access = s.access ++ [record] ∧
      (s.keep call record).errors = s.errors) ∨
    ((s.keep call record).access = s.access ∧
      (s.keep call record).errors = s.errors ++ [record]) := by
  cases call with
  | access => exact Or.inl ⟨rfl, rfl⟩
  | error => exact Or.inr ⟨rfl, rfl⟩

theorem records_keep_perm (call : Emission) :
    (s.keep call record).records.Perm (record :: s.records) := by
  cases call with
  | access =>
    simp only [records, access_keep_access, errors_keep_access, List.append_assoc]
    exact List.perm_middle
  | error =>
    simp only [records, access_keep_error, errors_keep_error, ← List.append_assoc]
    exact List.perm_append_singleton record _

end

instance : Sink MemorySink where
  emit call record s := (.ok (), s.keep call record)

end MemorySink

structure LogEntry where
  logger : Text
  severity : Int
  message : Text
  record : LogRecord
  deriving DecidableEq, Repr

structure LoggingSink where
  logger : Text
  format : LineFormat
  threshold : Int := Level.debug.severity
  /-- Oldest first. -/
  entries : List LogEntry := []
  deriving DecidableEq, Repr

namespace LoggingSink

def severity : Emission → Int
  | .access => Level.info.severity
  | .error => Level.error.severity

def entry (call : Emission) (record : LogRecord) (s : LoggingSink) : LogEntry :=
  ⟨Logger.known s.logger, severity call, record.line s.format, record⟩

def write (call : Emission) (record : LogRecord) (s : LoggingSink) : LoggingSink :=
  if Logger.effective s.logger s.threshold ≤ severity call then
    { s with entries := s.entries ++ [s.entry call record] }
  else s

instance : Sink LoggingSink where
  emit call record s := (.ok (), s.write call record)

def ofSettings (settings : Settings) : LoggingSink :=
  { logger := settings.loggerName, format := settings.logFormat }

end LoggingSink

/-- A sink that refuses the next record if it has a reason to. -/
structure RefusingSink (κ : Type) where
  refusal : Option Fault
  inner : κ

instance {κ : Type} [Sink κ] : Sink (RefusingSink κ) where
  emit call record s :=
    match s.refusal with
    | some fault => (.error fault, { s with refusal := none })
    | none =>
      let (result, inner) := Sink.emit call record s.inner
      (result, { s with inner := inner })

end RequestLog

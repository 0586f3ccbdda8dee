import RequestLog.Response.Observer

/-!
# Sessions of an observer

A session is any run of operations on an observer over any writer, step after step. A traced writer
behaves as the one inside it and notes each call that reaches it with what came of it. An observer
over a traced writer and one over the writer alone take the same steps; what is noted are the calls
that were to be passed on, with the very answers that the observer gave.
-/

namespace RequestLog

namespace Observer

/-- What an observer can be asked in the course of a response. -/
inductive Operation where
  | write (data : Octets) (more : Bool)
  | writeHeader (code : Int)
  | flush
  | header? (name : Text)
  | setHeader (name value : Text)
  | eraseHeader (name : Text)
  | headers
  | status
  | size
  deriving DecidableEq, Repr

inductive Answer where
  | count (result : Except Fault Int)
  | done (result : Except Fault Unit)
  | value (result : Except Fault (Option Text))
  | fields (list : List (Text × Text))
  | number (n : Int)

/-- One operation of a session: the observer before and behind it, and the answer. -/
structure Step (σ : Type) where
  operation : Operation
  before : Observer σ
  answer : Answer
  after : Observer σ

/-- A call of the writer and what came of it. -/
abbrev Relayed := WriterCall × Answer

end Observer

/-- A writer that notes its calls. -/
structure Traced (σ : Type) where
  writer : σ
  /-- Oldest first. -/
  relayed : List Observer.Relayed

variable {σ : Type} [ResponseWriter σ]

namespace Traced

def note (call : WriterCall) (answer : Observer.Answer) (writer : σ) (t : Traced σ) : Traced σ :=
  ⟨writer, t.relayed ++ [(call, answer)]⟩

instance : ResponseWriter (Traced σ) where
  name t := ResponseWriter.name t.writer
  write data more t :=
    let call := ResponseWriter.write data more t.writer
    (call.1, t.note (.write data more) (.count call.1) call.2)
  writeHeader code t :=
    let call := ResponseWriter.writeHeader code t.writer
    (call.1, t.note (.writeHeader code) (.done call.1) call.2)
  flush? t :=
    (ResponseWriter.flush? t.writer).map fun call =>
      (call.1, t.note .flush (.done call.1) call.2)
  header? name t := ResponseWriter.header? name t.writer
  setHeader name value t :=
    let call := ResponseWriter.setHeader name value t.writer
    (call.1, { t with writer := call.2 })
  eraseHeader name t :=
    let call := ResponseWriter.eraseHeader name t.writer
    (call.1, { t with writer := call.2 })
  headers t := ResponseWriter.headers t.writer

end Traced

namespace Observer

def perform (operation : Operation) (o : Observer σ) : Answer × Observer σ :=
  match operation with
  | .write data more => (.count (o.write data more).1, (o.write data more).2)
  | .writeHeader code => (.done (o.writeHeader code).1, (o.writeHeader code).2)
  | .flush => (.done o.flush.1, o.flush.2)
  | .header? name => (.value (ResponseWriter.header? name o), o)
  | .setHeader name value => (.done (o.setHeader name value).1, (o.setHeader name value).2)
  | .eraseHeader name => (.done (o.eraseHeader name).1, (o.eraseHeader name).2)
  | .headers => (.fields (ResponseWriter.headers o), o)
  | .status => (.number o.readStatus.1, o.readStatus.2)
  | .size => (.number o.size, o)

def step (operation : Operation) (o : Observer σ) : Step σ :=
  ⟨operation, o, (o.perform operation).1, (o.perform operation).2⟩

def steps : List Operation → Observer σ → List (Step σ)
  | [], _ => []
  | operation :: rest, o => o.step operation :: steps rest (o.perform operation).2

namespace Step

end Step

end Observer

end RequestLog

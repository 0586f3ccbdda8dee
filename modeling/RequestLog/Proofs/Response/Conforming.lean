import RequestLog.Proofs.Response.Order
import RequestLog.Response.Observer

/-!
# Conforming responses

A response conforms when it is begun at most once, by a start that has a status and gives each
further key once, and when no piece of its body comes before that. A channel on which nothing ever
fails tells what an application sends if it is left alone.
-/

namespace RequestLog

theorem Entries.put_of_notMem {κ α : Type} [DecidableEq κ] {key : κ} {entries : List (κ × α)}
    (h : key ∉ entries.map Prod.fst) (value : α) :
    put key value entries = entries ++ [(key, value)] := by
  induction entries with
  | nil => rfl
  | cons entry rest ih =>
    obtain ⟨hFirst, hRest⟩ : ¬key = entry.1 ∧ key ∉ rest.map Prod.fst := by simpa using h
    rw [put, if_neg (Ne.symm hFirst), ih hRest]
    rfl

namespace Fields

/-- Keys that are all new are added in their order. -/
theorem update_of_nodup {fields others : Fields} (h : ((fields ++ others).map Prod.fst).Nodup) :
    fields.update others = fields ++ others := by
  induction others generalizing fields with
  | nil => exact (List.append_nil fields).symm
  | cons field rest ih =>
    have hSplit : fields ++ field :: rest = (fields ++ [field]) ++ rest := by simp
    have hNew : field.1 ∉ fields.map Prod.fst := by
      rw [List.map_append, List.nodup_append] at h
      intro hMem
      exact h.2.2 _ hMem _ List.mem_cons_self rfl
    -- The first key joins the fields, so that the rest is new to them in turn.
    change Fields.update (Entries.put field.1 field.2 fields) rest = _
    rw [Entries.put_of_notMem hNew, hSplit]
    exact ih (hSplit ▸ h)

theorem without_of_disjoint {fields : Fields} {keys : List Text}
    (h : ∀ key ∈ keys, key ∉ fields.map Prod.fst) : fields.without keys = fields := by
  rw [without, List.filter_eq_self]
  intro field hField
  have hOther : field.1 ∉ keys := fun hKey => h _ hKey (List.mem_map_of_mem hField)
  simpa using hOther

end Fields

/-- A start with a status in range, each further key of which is given once. -/
structure StartMessage.IsProper (m : StartMessage) : Prop where
  status : ∃ status, m.status = some status ∧ Observer.isStatus status = true
  nodup : (m.extra.map Prod.fst).Nodup
  disjoint : ∀ key ∈ ChannelWriter.ownKeys, key ∉ m.extra.map Prod.fst

theorem StartMessage.IsProper.update_without {m : StartMessage} (h : m.IsProper) :
    (Fields.update [] m.extra).without ChannelWriter.ownKeys = m.extra := by
  have hKeys : (([] ++ m.extra : Fields).map Prod.fst).Nodup := h.nodup
  rw [Fields.update_of_nodup hKeys]
  exact Fields.without_of_disjoint h.disjoint

namespace Message

/-- What may follow a response that is begun or not yet begun. -/
inductive Conforms : Bool → List Message → Prop where
  | done {begun : Bool} : Conforms begun []
  | start {m : StartMessage} {rest : List Message} (proper : m.IsProper)
      (following : Conforms true rest) : Conforms false (.start m :: rest)
  | body {m : BodyMessage} {rest : List Message} (following : Conforms true rest) :
      Conforms true (.body m :: rest)
  | other {begun : Bool} {kind : Text} {fields : Fields} {rest : List Message}
      (following : Conforms begun rest) : Conforms begun (.other (some kind) fields :: rest)

theorem Conforms.following {begun : Bool} {m : Message} {rest : List Message}
    (h : Conforms begun (m :: rest)) : Conforms (begun || m.opens) rest := by
  cases h with
  | start proper following => exact following
  | body following => exact following
  | other following => simpa [opens, isStart, isBody] using following

end Message

namespace Channel

def IsSmooth (c : Channel) : Prop := ∀ n, c.outcomes n = none

theorem IsSmooth.outcome {c : Channel} (h : c.IsSmooth) : c.outcome = none := h _

theorem IsSmooth.send {c : Channel} (h : c.IsSmooth) (m : Message) : (c.send m).2.IsSmooth := h

end Channel

end RequestLog

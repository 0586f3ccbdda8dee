import RequestLog.Proofs.Address.Forms
import RequestLog.Proofs.Record.Integrity
import RequestLog.Proofs.Text.Numerals

/-!
# Joined addresses

The address that a host without brackets and a port are joined to denotes both, so the record of a
request names the very host of its peer. What an address denotes is joined to this address again,
but for one whose host is in brackets without need.
-/

namespace RequestLog

namespace Address

open Digits

/-- If the port is a text of its own, this has no colons and brackets. -/
def Port.IsJoinable (port : Port) : Prop := ∀ t, port = .named t → IsBare t

variable {address host port : Text}

theorem isBare_signed (n : Int) : IsBare (signed n) where
  opening := notMem_signed (by decide) (by decide) n
  closing := notMem_signed (by decide) (by decide) n
  colon := notMem_signed (by decide) (by decide) n

theorem Port.IsJoinable.isBare_text {port : Port} (h : port.IsJoinable) : IsBare port.text := by
  cases port with
  | number n => exact isBare_signed n
  | named t => exact h t rfl
  | absent => exact ⟨⟨by decide, by decide⟩, by decide⟩

theorem join_of_mem (h : ':' ∈ host) (port : Port) :
    join host port = '[' :: host ++ ']' :: ':' :: port.text :=
  if_pos (List.contains_iff_mem.mpr h)

theorem join_of_notMem (h : ':' ∉ host) (port : Port) : join host port = host ++ ':' :: port.text :=
  if_neg (mt List.contains_iff_mem.mp h)

theorem denotes_join {port : Port} (hHost : IsUnbracketed host) (hPort : IsBare port.text) :
    Denotes (join host port) host port.text := by
  by_cases hColon : ':' ∈ host
  · rw [join_of_mem hColon]
    exact .bracketed hHost hPort
  · rw [join_of_notMem hColon]
    exact .plain ⟨hHost, hColon⟩ hPort

theorem Denotes.isUnbracketed_host (h : Denotes address host port) : IsUnbracketed host := by
  cases h with
  | plain hHost hPort => exact hHost.toIsUnbracketed
  | bracketed hHost hPort => exact hHost

theorem Denotes.isBare_port (h : Denotes address host port) : IsBare port := by
  cases h with
  | plain hHost hPort => exact hPort
  | bracketed hHost hPort => exact hPort

/-- Brackets around a host without colons are lost when it is joined to its port again. -/
theorem Denotes.join_eq_iff (h : Denotes address host port) :
    join host (.named port) = address ↔ ¬(address.head? = some '[' ∧ ':' ∉ host) := by
  cases h with
  | plain hHost hPort =>
    have hHead := head?_plain hHost.toIsUnbracketed port
    constructor
    · rintro - ⟨hBracket, -⟩
      exact hHead hBracket
    · intro _
      exact join_of_notMem hHost.colon (.named port)
  | bracketed hHost hPort =>
    constructor
    · rintro hJoin ⟨hBracket, hColon⟩
      rw [join_of_notMem hColon] at hJoin
      apply head?_plain hHost port
      exact hJoin ▸ hBracket
    · intro hNeeded
      apply join_of_mem
      apply Decidable.not_not.mp
      intro hColon
      exact hNeeded ⟨rfl, hColon⟩

end Address

namespace Builder

variable {σ : Type} {s : Settings} {r : Request} {o : Observer σ} {clock : Clock} {call : LogCall}

theorem host_of_recordFor {record : LogRecord} (h : recordFor s r o clock call = .ok record) :
    record.base.host = Address.host r.remoteAddress := by
  obtain ⟨base, hBuild, rfl⟩ := recordFor_eq_ok_iff.mp h
  obtain ⟨url, user, parts, id, elapsed, -, -, -, -, -, hDraft⟩ :=
    draft_eq_ok_iff.mp (build_eq_ok_iff.mp hBuild)
  rw [base_present]
  exact congrArg Record.Draft.host hDraft

end Builder

namespace Request

theorem remoteAddress_of_client {scope : Scope} {peer : Server} {r : Request}
    (hClient : scope.client = some peer) (h : ofScope scope = .ok r) :
    r.remoteAddress = Address.join peer.host peer.port := by
  obtain ⟨path, method, headers, location, -, -, -, -, rfl⟩ := Scope.ofScope_eq_ok_iff.mp h
  change scope.remoteAddress = _
  rw [Scope.remoteAddress, hClient]

end Request

namespace Address

/-- A host without brackets and its port are read from the address that they are joined to, and the
host of a peer is what the record of its request says. What is read from any address is joined to
one of the same host and port, which is the given one unless there were brackets without need. -/
theorem read_join_inverse :
    (∀ host (port : Port), IsUnbracketed host → port.IsJoinable →
      read (join host port) = .ok (host, port.text)) ∧
    (∀ (scope : Scope) peer r, scope.client = some peer → IsUnbracketed peer.host →
      peer.port.IsJoinable → Request.ofScope scope = .ok r →
      Address.host r.remoteAddress = peer.host ∧
      ∀ {σ : Type} (s : Settings) (o : Observer σ) clock call record,
        Builder.recordFor s r o clock call = .ok record → record.base.host = peer.host) ∧
    ∀ address host port, read address = .ok (host, port) →
      read (join host (.named port)) = .ok (host, port) ∧
      (join host (.named port) = address ↔ ¬(address.head? = some '[' ∧ ':' ∉ host)) := by
  refine ⟨?_, ?_, ?_⟩
  · intro host port hHost hPort
    exact read_eq_ok_iff.mpr (denotes_join hHost hPort.isBare_text)
  · intro scope peer r hClient hHost hPort hRequest
    have hPeer : Address.host r.remoteAddress = peer.host := by
      rw [Request.remoteAddress_of_client hClient hRequest]
      exact host_of_denotes (denotes_join hHost hPort.isBare_text)
    refine ⟨hPeer, ?_⟩
    intro σ s o clock call record hRecord
    rw [Builder.host_of_recordFor hRecord, hPeer]
  · intro address host port hRead
    have hDenotes := read_eq_ok_iff.mp hRead
    constructor
    · exact read_eq_ok_iff.mpr (denotes_join hDenotes.isUnbracketed_host hDenotes.isBare_port)
    · exact hDenotes.join_eq_iff

/-- A scope of a peer whose address has a zone. -/
def zonedScope : Scope where
  method := some "GET".toList
  path := some "/".toList
  headers := some []
  client := some ⟨"fe80::1%eth0".toList, .number 5000⟩

theorem zoned_peer_recorded :
    read (join "fe80::1%eth0".toList (.number 5000)) =
      .ok ("fe80::1%eth0".toList, "5000".toList) ∧
    (∃ r record, Request.ofScope zonedScope = .ok r ∧
      Builder.recordFor {} r AccessRecord.unwritten AccessRecord.stillClock .access = .ok record ∧
      record.base.host = "fe80::1%eth0".toList) ∧
    read "[localhost]:80".toList = .ok ("localhost".toList, "80".toList) ∧
    read (join "localhost".toList (.named "80".toList)) = .ok ("localhost".toList, "80".toList) ∧
    join "localhost".toList (.named "80".toList) ≠ "[localhost]:80".toList := by
  obtain ⟨hJoined, hPeer, hSplit⟩ := read_join_inverse
  have hHost : IsUnbracketed "fe80::1%eth0".toList := ⟨by decide, by decide⟩
  have hPort : (Port.number 5000).IsJoinable := by
    rintro t ⟨⟩
  have hFound : ((Request.ofScope zonedScope >>= fun request =>
      Builder.recordFor {} request AccessRecord.unwritten AccessRecord.stillClock
        .access).toOption).isSome = true := by
    decide +kernel
  have hRead : read "[localhost]:80".toList = .ok ("localhost".toList, "80".toList) := rfl
  obtain ⟨hAgain, hSame⟩ := hSplit _ _ _ hRead
  refine ⟨hJoined _ _ hHost hPort, ?_, hRead, hAgain, ?_⟩
  · obtain ⟨record, hRecorded⟩ := Except.exists_ok_of_isSome hFound
    obtain ⟨r, hRequest, hRecord⟩ := Except.bind_eq_ok_iff.mp hRecorded
    obtain ⟨-, hRecords⟩ := hPeer zonedScope _ r rfl hHost hPort hRequest
    exact ⟨r, record, hRequest, hRecord, hRecords _ _ _ _ _ hRecord⟩
  · intro hJoin
    exact hSame.mp hJoin ⟨rfl, by decide⟩

end Address

end RequestLog

import RequestLog.Proofs.Address.Forms

/-!
# Characters of addresses

The host of an address consists of characters of the address, and an address of those of its host
and its port, and of brackets and colons.
-/

namespace RequestLog.Address

theorem Denotes.mem_of_mem_host {address host port : Text} (h : Denotes address host port) {c : Char}
    (hc : c ∈ host) : c ∈ address := by
  cases h with
  | plain => exact List.mem_append_left _ hc
  | bracketed =>
    apply List.mem_cons_of_mem
    exact List.mem_append_left _ hc

theorem mem_of_mem_host {address : Text} {c : Char} (h : c ∈ host address) : c ∈ address := by
  unfold host at h
  split at h
  · next found port hSplit => exact (split_eq_ok_iff.mp hSplit).mem_of_mem_host h
  · exact h

theorem forall_mem_join {P : Char → Prop} (hOpening : P '[') (hClosing : P ']') (hColon : P ':')
    {host : Text} {port : Port} (hHost : ∀ c ∈ host, P c) (hPort : ∀ c ∈ port.text, P c) :
    ∀ c ∈ join host port, P c := by
  intro c hc
  unfold join at hc
  split at hc
  · simp only [List.cons_append, List.mem_cons, List.mem_append] at hc
    rcases hc with rfl | hc | rfl | rfl | hc
    · exact hOpening
    · exact hHost c hc
    · exact hClosing
    · exact hColon
    · exact hPort c hc
  · simp only [List.mem_append, List.mem_cons] at hc
    rcases hc with hc | rfl | hc
    · exact hHost c hc
    · exact hColon
    · exact hPort c hc

end RequestLog.Address

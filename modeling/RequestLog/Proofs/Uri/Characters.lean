import RequestLog.Proofs.Text.Splits
import RequestLog.Proofs.Uri.Rejoin

/-!
# Characters of a URL

Splitting a URL takes characters away and makes those of its scheme small; putting parts together
adds the separators. So a class of characters that is closed under this, and that all characters of
a URL belong to, is one for all characters of its parts and of what is made of these.
-/

namespace RequestLog.Uri

/-- A class with the separators of a URL and the small form of each of its characters. -/
structure IsUrlClass (P : Char → Prop) : Prop where
  colon : P ':'
  slash : P '/'
  question : P '?'
  number : P '#'
  lower : ∀ c, P c → P c.toLower

structure Parts.Within (P : Char → Prop) (p : Parts) : Prop where
  scheme : ∀ c ∈ p.scheme, P c
  netloc : ∀ c ∈ p.netloc, P c
  path : ∀ c ∈ p.path, P c
  query : ∀ c ∈ p.query, P c
  fragment : ∀ c ∈ p.fragment, P c

variable {P : Char → Prop} {url : Text}

theorem mem_of_mem_clean {c : Char} (h : c ∈ clean url) : c ∈ url :=
  (List.dropWhile_sublist _).mem (List.mem_filter.mp h).1

theorem mem_of_mem_splitScheme {c : Char} (h : c ∈ (splitScheme url).2) : c ∈ url := by
  unfold splitScheme at h
  split at h
  · next first name rest hCut =>
    split at h
    · rw [eq_of_cut_eq_some hCut]
      exact List.mem_append_right _ (List.mem_cons_of_mem _ h)
    · exact h
  · exact h

theorem forall_mem_splitScheme (hP : IsUrlClass P) (h : ∀ c ∈ url, P c) :
    ∀ c ∈ (splitScheme url).1, P c := by
  unfold splitScheme
  split
  · next first name rest hCut =>
    rw [eq_of_cut_eq_some hCut] at h
    split
    · intro c hc
      obtain ⟨x, hx, rfl⟩ := List.mem_map.mp hc
      exact hP.lower x (h x (List.mem_append_left _ hx))
    · exact List.forall_mem_nil P
  · exact List.forall_mem_nil P

theorem forall_mem_splitNetloc (h : ∀ c ∈ url, P c) :
    (∀ c ∈ (splitNetloc url).1, P c) ∧ ∀ c ∈ (splitNetloc url).2, P c := by
  unfold splitNetloc
  split
  · next rest =>
    have hRest : ∀ c ∈ rest, P c := by
      intro c hc
      exact h c (List.mem_cons_of_mem _ (List.mem_cons_of_mem _ hc))
    exact ⟨fun c hc => hRest c ((List.takeWhile_sublist _).mem hc),
      fun c hc => hRest c ((List.dropWhile_sublist _).mem hc)⟩
  · exact ⟨List.forall_mem_nil _, h⟩

theorem within_parts (hP : IsUrlClass P) (h : ∀ c ∈ url, P c) : (parts url).Within P := by
  have hClean : ∀ c ∈ clean url, P c := fun c hc => h c (mem_of_mem_clean hc)
  have hBehind : ∀ c ∈ (splitScheme (clean url)).2, P c :=
    fun c hc => hClean c (mem_of_mem_splitScheme hc)
  obtain ⟨hNetloc, hRest⟩ := forall_mem_splitNetloc hBehind
  exact {
    scheme := forall_mem_splitScheme hP hClean
    netloc := hNetloc
    path := fun c hc => hRest c (mem_of_mem_cut_fst (mem_of_mem_cut_fst hc))
    query := fun c hc => hRest c (mem_of_mem_cut_fst (mem_of_mem_cut_snd hc))
    fragment := fun c hc => hRest c (mem_of_mem_cut_snd hc) }

theorem forall_mem_introduced {mark : Char} {t : Text} (hMark : P mark) (h : ∀ c ∈ t, P c) :
    ∀ c ∈ introduced mark t, P c := by
  intro c hc
  rcases mem_introduced hc with rfl | hc
  · exact hMark
  · exact h c hc

namespace Parts.Within

variable {p : Parts}

theorem rooted_path (h : p.Within P) (hP : IsUrlClass P) : ∀ c ∈ rooted p.path, P c := by
  intro c hc
  rcases mem_rooted hc with rfl | hc
  · exact hP.slash
  · exact h.path c hc

theorem located (h : p.Within P) (hP : IsUrlClass P) :
    ∀ c ∈ '/' :: '/' :: p.netloc ++ rooted p.path, P c := by
  intro c hc
  simp only [List.cons_append, List.mem_cons, List.mem_append] at hc
  rcases hc with rfl | rfl | hc | hc
  · exact hP.slash
  · exact hP.slash
  · exact h.netloc c hc
  · exact h.rooted_path hP c hc

theorem unsplit (h : p.Within P) (hP : IsUrlClass P) : ∀ c ∈ Uri.unsplit p, P c := by
  intro c hc
  rcases List.mem_append.mp hc with hc | hc
  · rcases List.mem_append.mp hc with hc | hc
    · rcases List.mem_append.mp hc with hc | hc
      · split at hc
        · cases hc
        · rcases List.mem_append.mp hc with hc | hc
          · exact h.scheme c hc
          · rw [List.mem_singleton.mp hc]
            exact hP.colon
      · split at hc
        · exact h.located hP c hc
        · exact h.path c hc
    · exact forall_mem_introduced hP.question h.query c hc
  · exact forall_mem_introduced hP.number h.fragment c hc

theorem requestUri (h : p.Within P) (hP : IsUrlClass P) : ∀ c ∈ p.requestUri, P c := by
  intro c hc
  rcases List.mem_append.mp hc with hc | hc
  · split at hc
    · rw [List.mem_singleton.mp hc]
      exact hP.slash
    · exact h.path c hc
  · exact forall_mem_introduced hP.question h.query c hc

end Parts.Within

end RequestLog.Uri

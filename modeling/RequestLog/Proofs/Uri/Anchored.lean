import RequestLog.Proofs.Uri.Behind

/-!
# Parts that were read

Whatever a URL is, its parts are well formed: splitting leaves no character where it would begin the
next part, and no tab or line break at all. If they are anchored, by a network location or by a path
that begins with exactly one slash, they are located too, and with any well-formed query in place of
theirs they can be put together and read again.
-/

namespace RequestLog.Uri

/-- There is a network location, or the path begins with one slash and no more. -/
def Parts.IsAnchored (p : Parts) : Prop :=
  p.netloc ≠ [] ∨ ∃ rest, p.path = '/' :: rest ∧ rest.head? ≠ some '/'

variable {url : Text} {c : Char}

theorem isBreak_of_mem_clean (h : c ∈ clean url) : isBreak c = false := by
  have hKept := (List.mem_filter.mp h).2
  rwa [Bool.not_eq_true'] at hKept

theorem isBreak_of_mem_behind (h : c ∈ behind url) : isBreak c = false :=
  isBreak_of_mem_clean (mem_of_mem_splitScheme (mem_of_mem_splitNetloc h))

theorem isBreak_of_mem_netloc (h : c ∈ (parts url).netloc) : isBreak c = false := by
  have hRest : ∀ c ∈ (splitScheme (clean url)).2, isBreak c = false :=
    fun c hc => isBreak_of_mem_clean (mem_of_mem_splitScheme hc)
  exact (forall_mem_splitNetloc hRest).1 c h

theorem wellFormed_parts (url : Text) : (parts url).WellFormed where
  scheme := isScheme_parts url
  netloc := endsNetloc_parts url
  path_query := notMem_cut_fst '?' _
  path_fragment := fun h => (mem_behind_of_path h).2 rfl
  query_fragment := fun h => (mem_behind_of_query h).2 rfl
  unbroken := by
    intro c hc
    simp only [List.mem_append] at hc
    rcases hc with hc | hc | hc | hc
    · exact isBreak_of_mem_netloc hc
    · exact isBreak_of_mem_behind (mem_behind_of_path hc).1
    · exact isBreak_of_mem_behind (mem_behind_of_query hc).1
    · exact isBreak_of_mem_behind (mem_behind_of_fragment hc)

/-- Behind a network location stands a character that ends it, or nothing. -/
theorem endsNetloc_splitNetloc {t : Text} :
    (splitNetloc t).1 ≠ [] → (splitNetloc t).2.head? = some c → endsNetloc c = true := by
  unfold splitNetloc
  split
  · next rest =>
    intro _ hHead
    have hStop := List.head?_dropWhile_not (fun c => !endsNetloc c) rest
    rw [hHead] at hStop
    simpa using hStop
  · intro hNetloc
    exact absurd rfl hNetloc

theorem rooted_path_parts (h : (parts url).netloc ≠ []) :
    rooted (parts url).path = (parts url).path := by
  change rooted (cut '?' (cut '#' (behind url)).1).1 = (cut '?' (cut '#' (behind url)).1).1
  cases hBehind : behind url with
  | nil => rfl
  | cons first rest =>
    have hHead : (behind url).head? = some first := by
      rw [hBehind]
      rfl
    have hEnds : endsNetloc first = true := endsNetloc_splitNetloc h hHead
    simp only [endsNetloc, Bool.or_eq_true, decide_eq_true_eq] at hEnds
    rcases hEnds with (rfl | rfl) | rfl <;> rfl

theorem isLocated_parts (h : (parts url).IsAnchored) : (parts url).IsLocated := by
  by_cases hNetloc : (parts url).netloc = []
  · rcases h with hSome | hPath
    · exact absurd hNetloc hSome
    · exact Or.inr ⟨hNetloc, hPath⟩
  · exact Or.inl ⟨hNetloc, rooted_path_parts hNetloc⟩

end RequestLog.Uri

import RequestLog.Proofs.Uri.Behind

/-!
# A query at the end of a URL

A URL that ends in a question mark and a query, with neither a question mark nor a number sign
before them, has this query, whatever else is read from it. Each stage of splitting leaves the end
of such a URL alone.
-/

namespace RequestLog.Uri

/-- Text that a question mark opens, without line breaks, or no text at all. -/
structure IsTrailing (rest : Text) : Prop where
  opened : ∀ c, rest.head? = some c → c = '?'
  unbroken : ∀ c ∈ rest, isBreak c = false

variable {before rest : Text}

theorem splitNetloc_of_ne {url : Text} (h : ∀ more, url ≠ '/' :: '/' :: more) :
    splitNetloc url = ([], url) := by
  unfold splitNetloc
  split
  · next more => exact absurd rfl (h more)
  · rfl

theorem splitScheme_of_mem {url : Text} {c : Char} (h : c ∈ (cut ':' url).1)
    (hChar : isSchemeChar c = false) : splitScheme url = ([], url) := by
  unfold splitScheme
  split
  · next first name rest hCut =>
    rw [hCut] at h
    refine if_neg ?_
    intro hScheme
    obtain ⟨hAlpha, hName⟩ := Bool.and_eq_true_iff.mp hScheme
    rcases List.mem_cons.mp h with rfl | hMem
    · simp [isSchemeChar, Char.isAlphanum, hAlpha] at hChar
    · exact absurd ((List.all_eq_true.mp hName c hMem).symm.trans hChar) (by decide)
  · rfl

theorem isTrailing_introduced {query : Text} (h : ∀ c ∈ query, isBreak c = false) :
    IsTrailing (introduced '?' query) where
  opened c hc := by
    cases query with
    | nil => cases hc
    | cons first more => exact (Option.some.inj hc).symm
  unbroken c hc := by
    rcases mem_introduced hc with rfl | hc
    · rfl
    · exact h c hc

namespace IsTrailing

theorem dropWhile_append {p : Char → Bool} (h : IsTrailing rest) (hMark : p '?' = false)
    (before : Text) : (before ++ rest).dropWhile p = before.dropWhile p ++ rest := by
  have hRest : rest.dropWhile p = rest := by
    cases rest with
    | nil => rfl
    | cons c more =>
      rw [h.opened c rfl, List.dropWhile_cons_of_neg (by simp [hMark])]
  rw [List.dropWhile_append, hRest]
  split
  · next hEmpty => rw [List.isEmpty_iff.mp hEmpty, List.nil_append]
  · rfl

theorem clean_append (h : IsTrailing rest) (before : Text) :
    clean (before ++ rest) = clean before ++ rest := by
  have hKept : (rest.filter fun c => !isBreak c) = rest := by
    rw [List.filter_eq_self]
    intro c hc
    rw [h.unbroken c hc]
    rfl
  rw [clean, h.dropWhile_append (by decide), List.filter_append, hKept, clean]

theorem snd_splitNetloc_append (h : IsTrailing rest) (before : Text) :
    (splitNetloc (before ++ rest)).2 = (splitNetloc before).2 ++ rest := by
  by_cases hSlashes : ∃ more, before = '/' :: '/' :: more
  · obtain ⟨more, rfl⟩ := hSlashes
    exact h.dropWhile_append (by decide) more
  · have hBefore : ∀ more, before ≠ '/' :: '/' :: more := by
      intro more hEq
      exact hSlashes ⟨more, hEq⟩
    have hSlash : rest.head? ≠ some '/' := by
      intro hHead
      exact absurd (h.opened _ hHead) (by decide)
    have hAll : ∀ more, before ++ rest ≠ '/' :: '/' :: more := by
      intro more hEq
      rcases before with _ | ⟨c, _ | ⟨d, inner⟩⟩
      · exact hSlash (congrArg List.head? hEq)
      · exact hSlash (congrArg List.head? (List.cons.inj hEq).2)
      · cases hEq
        exact hBefore inner rfl
    rw [splitNetloc_of_ne hBefore, splitNetloc_of_ne hAll]

/-- A scheme is not read beyond the question mark. -/
theorem snd_splitScheme_append (h : IsTrailing rest) (before : Text) :
    (splitScheme (before ++ rest)).2 = (splitScheme before).2 ++ rest := by
  by_cases hColon : ':' ∈ before
  · obtain ⟨name, more, rfl, hName⟩ := List.eq_append_cons_of_mem hColon
    rw [List.append_assoc, List.cons_append, splitScheme, splitScheme, cut_append_cons hName,
      cut_append_cons hName]
    cases name with
    | nil => rfl
    | cons c name =>
      by_cases hScheme : (c.isAlpha && name.all isSchemeChar) = true
      · simp only [hScheme, ↓reduceIte]
      · simp only [hScheme, Bool.false_eq_true, ↓reduceIte, List.append_assoc, List.cons_append]
  · have hBefore : splitScheme before = ([], before) := by
      rw [splitScheme, cut_of_notMem hColon]
      cases before <;> rfl
    rw [hBefore]
    cases rest with
    | nil => rw [List.append_nil, hBefore]
    | cons c more =>
      rw [h.opened c rfl]
      have hMark : '?' ∈ (cut ':' (before ++ '?' :: more)).1 := by
        rw [cut_append_of_notMem hColon]
        exact List.mem_append_right _ List.mem_cons_self
      rw [splitScheme_of_mem hMark (by decide)]

theorem behind_append (h : IsTrailing rest) (before : Text) :
    behind (before ++ rest) = behind before ++ rest := by
  rw [behind, h.clean_append, h.snd_splitScheme_append, h.snd_splitNetloc_append, behind]

end IsTrailing

theorem query_parts_append {query : Text} (hQuestion : '?' ∉ before) (hNumber : '#' ∉ before)
    (hQuery : '#' ∉ query) (hUnbroken : ∀ c ∈ query, isBreak c = false) :
    (parts (before ++ introduced '?' query)).query = query := by
  change (cut '?' (cut '#' (behind (before ++ introduced '?' query))).1).2.getD [] = query
  have hBehind (c : Char) (hc : c ∉ before) : c ∉ behind before := fun h => hc (mem_of_mem_behind h)
  have hEnd : '#' ∉ behind before ++ introduced '?' query := by
    rw [List.mem_append]
    rintro (hMem | hMem)
    · exact hBehind '#' hNumber hMem
    · rcases mem_introduced hMem with hMark | hMem
      · exact absurd hMark (by decide)
      · exact hQuery hMem
  rw [(isTrailing_introduced hUnbroken).behind_append, cut_of_notMem hEnd]
  exact (cut_introduced (hBehind '?' hQuestion) query).2

/-- The query of parts that are put together, where none of the parts before it has its mark. -/
theorem query_parts_unsplit {p : Parts}
    (hBefore : ∀ c ∈ p.scheme ++ (p.netloc ++ p.path), c ≠ '?' ∧ c ≠ '#')
    (hFragment : p.fragment = []) (hQuery : '#' ∉ p.query)
    (hUnbroken : ∀ c ∈ p.query, isBreak c = false) : (parts (unsplit p)).query = p.query := by
  have hFront : ∀ c ∈ (if p.scheme.isEmpty then [] else p.scheme ++ [':']) ++
      (if hasLocation p then '/' :: '/' :: p.netloc ++ rooted p.path else p.path),
      c ≠ '?' ∧ c ≠ '#' := by
    intro c hc
    rcases List.mem_append.mp hc with hc | hc
    · split at hc
      · cases hc
      · rcases List.mem_append.mp hc with hc | hc
        · exact hBefore c (by simp [hc])
        · rw [List.mem_singleton.mp hc]
          decide
    · split at hc
      · simp only [List.cons_append, List.mem_cons, List.mem_append] at hc
        rcases hc with rfl | rfl | hc | hc
        · decide
        · decide
        · exact hBefore c (by simp [hc])
        · rcases mem_rooted hc with rfl | hc
          · decide
          · exact hBefore c (by simp [hc])
      · exact hBefore c (by simp [hc])
  have hEnd : introduced '#' p.fragment = [] := by
    rw [hFragment]
    rfl
  rw [unsplit, hEnd, List.append_nil]
  exact query_parts_append (fun hMem => (hFront '?' hMem).1 rfl)
    (fun hMem => (hFront '#' hMem).2 rfl) hQuery hUnbroken

end RequestLog.Uri

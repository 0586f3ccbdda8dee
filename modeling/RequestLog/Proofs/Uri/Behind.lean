import RequestLog.Proofs.Uri.Characters

/-!
# Behind the location

Path, query and fragment are read from what stands behind the network location of a URL. Putting
parts together and splitting again moves nothing of a scheme or of a location there, even if the
parts are then read in another way, as an empty location before a path with two slashes is. So a
class for the characters of path and query is kept through any number of such rounds, whatever
stands in the location.
-/

namespace RequestLog.Uri

/-- Path, query and fragment of a URL, with the marks between them. -/
def behind (url : Text) : Text := (splitNetloc (splitScheme (clean url)).2).2

section

variable {url : Text} {c : Char}

theorem mem_of_mem_splitNetloc (h : c ∈ (splitNetloc url).2) : c ∈ url :=
  (forall_mem_splitNetloc (P := fun x => x ∈ url) fun _ hx => hx).2 c h

theorem mem_of_mem_behind (h : c ∈ behind url) : c ∈ url :=
  mem_of_mem_clean (mem_of_mem_splitScheme (mem_of_mem_splitNetloc h))

theorem mem_behind_of_cut (h : c ∈ (cut '#' (behind url)).1) : c ∈ behind url ∧ c ≠ '#' := by
  refine ⟨mem_of_mem_cut_fst h, ?_⟩
  rintro rfl
  exact notMem_cut_fst '#' (behind url) h

theorem mem_behind_of_path (h : c ∈ (parts url).path) : c ∈ behind url ∧ c ≠ '#' :=
  mem_behind_of_cut (mem_of_mem_cut_fst h)

theorem mem_behind_of_query (h : c ∈ (parts url).query) : c ∈ behind url ∧ c ≠ '#' :=
  mem_behind_of_cut (mem_of_mem_cut_snd h)

theorem mem_behind_of_fragment (h : c ∈ (parts url).fragment) : c ∈ behind url :=
  mem_of_mem_cut_snd h

theorem isScheme_parts (url : Text) : (parts url).scheme = [] ∨ IsScheme (parts url).scheme := by
  change (splitScheme (clean url)).1 = [] ∨ IsScheme (splitScheme (clean url)).1
  unfold splitScheme
  split
  · next first name rest hCut =>
    split
    · next hChars =>
      obtain ⟨hAlpha, hName⟩ := Bool.and_eq_true_iff.mp hChars
      refine Or.inr ⟨first.toLower, name.map Char.toLower, rfl, ?_, ?_, ?_⟩
      · exact toLower_of_class (by decide) hAlpha
      · rw [List.all_map, List.all_eq_true]
        intro x hx
        exact toLower_of_class (by decide) (List.all_eq_true.mp hName x hx)
      · rw [List.map_map]
        exact List.map_congr_left fun x _ => toLower_toLower x
    · exact Or.inl rfl
  · exact Or.inl rfl

theorem endsNetloc_parts (url : Text) : ∀ c ∈ (parts url).netloc, endsNetloc c = false := by
  change ∀ c ∈ (splitNetloc (splitScheme (clean url)).2).1, endsNetloc c = false
  unfold splitNetloc
  split
  · next rest _ =>
    intro c hc
    have hAll := List.all_takeWhile (p := fun c => !endsNetloc c) (l := rest)
    simpa using List.all_eq_true.mp hAll c hc
  · exact List.forall_mem_nil _

end

/-- Behind two slashes and a location stands only what follows them. -/
theorem mem_of_mem_splitNetloc_append {netloc rest : Text}
    (hNetloc : ∀ c ∈ netloc, endsNetloc c = false) {c : Char}
    (h : c ∈ (splitNetloc ('/' :: '/' :: netloc ++ rest)).2) : c ∈ rest := by
  have hInside : ∀ c ∈ netloc, (!endsNetloc c) = true := by
    intro c hc
    rw [hNetloc c hc]
    rfl
  change c ∈ (netloc ++ rest).dropWhile fun c => !endsNetloc c at h
  rw [List.dropWhile_append_of_pos hInside] at h
  exact (List.dropWhile_sublist _).mem h

theorem mem_rooted_of_mem {c : Char} {path : Text} (h : c ∈ path) : c ∈ rooted path := by
  unfold rooted
  split
  · exact h
  · split
    · exact h
    · exact List.mem_cons_of_mem _ h

theorem clean_scheme {scheme : Text} (h : IsScheme scheme) (rest : Text) :
    clean (scheme ++ ':' :: rest) = scheme ++ ':' :: rest.filter fun x => !isBreak x := by
  have hKept : (scheme.filter fun x => !isBreak x) = scheme := by
    rw [List.filter_eq_self]
    intro x hx
    rw [isBreak_of_class (by decide) (by decide) (by decide) (h.isSchemeChar x hx)]
    rfl
  obtain ⟨first, name, rfl, hAlpha, -, -⟩ := h
  have hCode := toNat_of_isAlphanum (c := first) (by rw [Char.isAlphanum, hAlpha, Bool.true_or])
  rw [List.cons_append, clean_cons (by omega), ← List.cons_append, List.filter_append, hKept]
  rfl

namespace Parts

variable {p : Parts} {c : Char}

theorem mem_splitNetloc_afterScheme (hNetloc : ∀ c ∈ p.netloc, endsNetloc c = false)
    (h : c ∈ (splitNetloc (p.afterScheme.filter fun x => !isBreak x)).2) :
    c ∈ rooted p.path ∨ c ∈ p.marked := by
  unfold afterScheme at h
  by_cases hLocation : hasLocation p = true
  · have hKept : ∀ c ∈ p.netloc.filter fun x => !isBreak x, endsNetloc c = false :=
      fun c hc => hNetloc c (List.mem_filter.mp hc).1
    rw [if_pos hLocation, List.append_assoc, List.filter_append] at h
    have hBehind := (List.mem_filter.mp (mem_of_mem_splitNetloc_append hKept h)).1
    exact List.mem_append.mp hBehind
  · rw [if_neg hLocation] at h
    rcases List.mem_append.mp (List.mem_filter.mp (mem_of_mem_splitNetloc h)).1 with hPath | hMark
    · exact Or.inl (mem_rooted_of_mem hPath)
    · exact Or.inr hMark

/-- Behind the location of a URL that was put together stand its rooted path, its query and its
fragment. -/
theorem mem_behind_unsplit (hScheme : p.scheme = [] ∨ IsScheme p.scheme)
    (hNetloc : ∀ c ∈ p.netloc, endsNetloc c = false) (h : c ∈ behind (unsplit p)) :
    c ∈ rooted p.path ∨ c ∈ p.marked := by
  rw [unsplit_eq] at h
  rcases hScheme with hEmpty | hScheme
  · have hBare : (if p.scheme.isEmpty then [] else p.scheme ++ [':']) = ([] : Text) := by
      rw [hEmpty]
      rfl
    rw [hBare, List.nil_append] at h
    by_cases hLocation : hasLocation p = true
    · obtain ⟨rest, hRest⟩ : ∃ rest, p.afterScheme = '/' :: rest := by
        rw [afterScheme, if_pos hLocation]
        exact ⟨_, rfl⟩
      have hClean : clean p.afterScheme = p.afterScheme.filter fun x => !isBreak x := by
        rw [hRest]
        exact clean_cons (by decide)
      have hSlash : ∃ more, (p.afterScheme.filter fun x => !isBreak x) = '/' :: more := by
        rw [hRest]
        exact ⟨_, rfl⟩
      obtain ⟨more, hMore⟩ := hSlash
      rw [behind, hClean, hMore, splitScheme_slash, ← hMore] at h
      exact mem_splitNetloc_afterScheme hNetloc h
    · -- without scheme and location the URL is all behind them
      have hAll := mem_of_mem_behind h
      rw [afterScheme, if_neg hLocation] at hAll
      exact (List.mem_append.mp hAll).imp_left mem_rooted_of_mem
  · have hNamed : (if p.scheme.isEmpty then [] else p.scheme ++ [':']) = p.scheme ++ [':'] := by
      obtain ⟨first, name, hCons, -⟩ := hScheme
      rw [hCons]
      rfl
    rw [hNamed, List.append_assoc, List.singleton_append, behind, clean_scheme hScheme,
      splitScheme_of_isScheme hScheme] at h
    exact mem_splitNetloc_afterScheme hNetloc h

end Parts

/-- All characters behind the location of a URL are of a class, number signs apart. -/
def IsWithin (P : Char → Prop) (url : Text) : Prop := ∀ c ∈ behind url, c ≠ '#' → P c

section

variable {P : Char → Prop} {url : Text}

theorem IsWithin.of_forall_mem (h : ∀ c ∈ url, P c) : IsWithin P url :=
  fun c hc _ => h c (mem_of_mem_behind hc)

theorem IsWithin.requestUri (h : IsWithin P url) (hSlash : P '/') (hQuestion : P '?') :
    ∀ c ∈ (parts url).requestUri, P c := by
  intro c hc
  rcases List.mem_append.mp hc with hc | hc
  · split at hc
    · rw [List.mem_singleton.mp hc]
      exact hSlash
    · obtain ⟨hBehind, hNumber⟩ := mem_behind_of_path hc
      exact h c hBehind hNumber
  · refine forall_mem_introduced hQuestion ?_ c hc
    intro x hx
    obtain ⟨hBehind, hNumber⟩ := mem_behind_of_query hx
    exact h x hBehind hNumber

theorem isWithin_unsplit {p : Parts} (hSlash : P '/') (hQuestion : P '?')
    (hScheme : p.scheme = [] ∨ IsScheme p.scheme) (hNetloc : ∀ c ∈ p.netloc, endsNetloc c = false)
    (hPath : ∀ c ∈ p.path, P c) (hQuery : ∀ c ∈ p.query, P c)
    (hFragment : ∀ c ∈ p.fragment, c ≠ '#' → P c) : IsWithin P (unsplit p) := by
  intro c hc hNumber
  rcases p.mem_behind_unsplit hScheme hNetloc hc with hc | hc
  · rcases mem_rooted hc with rfl | hc
    · exact hSlash
    · exact hPath c hc
  · rcases List.mem_append.mp hc with hc | hc
    · exact forall_mem_introduced hQuestion hQuery c hc
    · rcases mem_introduced hc with hMark | hc
      · exact absurd hMark hNumber
      · exact hFragment c hc hNumber

/-- A URL can be put together anew with another query. -/
theorem IsWithin.unsplit_query (h : IsWithin P url) (hSlash : P '/') (hQuestion : P '?')
    {query : Text} (hQuery : ∀ c ∈ query, P c) :
    IsWithin P (unsplit { parts url with query := query }) := by
  refine isWithin_unsplit hSlash hQuestion (isScheme_parts url) (endsNetloc_parts url) ?_ hQuery ?_
  · intro c hc
    obtain ⟨hBehind, hNumber⟩ := mem_behind_of_path hc
    exact h c hBehind hNumber
  · intro c hc hNumber
    exact h c (mem_behind_of_fragment hc) hNumber

end

end RequestLog.Uri

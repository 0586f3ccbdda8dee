import RequestLog.Proofs.Text.Ascii
import RequestLog.Proofs.Text.Splits
import RequestLog.Request

/-!
# Splitting what was put together

Parts are well formed when no character stands where it would begin the next part, and located when
a network location or a path with one leading slash tells where they begin. Well-formed and located
parts are what splitting reads from the reference put together from them, and they are read without
a fault when their network location passes its checks.
-/

namespace RequestLog.Uri

/-- A scheme in small letters. -/
def IsScheme (t : Text) : Prop :=
  ∃ c rest, t = c :: rest ∧ c.isAlpha = true ∧ rest.all isSchemeChar = true ∧
    t.map Char.toLower = t

structure Parts.WellFormed (p : Parts) : Prop where
  scheme : p.scheme = [] ∨ IsScheme p.scheme
  netloc : ∀ c ∈ p.netloc, endsNetloc c = false
  path_query : '?' ∉ p.path
  path_fragment : '#' ∉ p.path
  query_fragment : '#' ∉ p.query
  unbroken : ∀ c ∈ p.netloc ++ (p.path ++ (p.query ++ p.fragment)), isBreak c = false

def Parts.IsLocated (p : Parts) : Prop :=
  (p.netloc ≠ [] ∧ rooted p.path = p.path) ∨
  (p.netloc = [] ∧ ∃ rest, p.path = '/' :: rest ∧ rest.head? ≠ some '/')

theorem cut_introduced {mark : Char} {before : Text} (h : mark ∉ before) (after : Text) :
    (cut mark (before ++ introduced mark after)).1 = before ∧
    (cut mark (before ++ introduced mark after)).2.getD [] = after := by
  cases after with
  | nil =>
    change (cut mark (before ++ [])).1 = before ∧ (cut mark (before ++ [])).2.getD [] = []
    rw [List.append_nil, cut_of_notMem h]
    exact ⟨rfl, rfl⟩
  | cons c rest =>
    change (cut mark (before ++ mark :: c :: rest)).1 = before ∧
      (cut mark (before ++ mark :: c :: rest)).2.getD [] = c :: rest
    rw [cut_append_cons h]
    exact ⟨rfl, rfl⟩

theorem mem_introduced {mark c : Char} {t : Text} (h : c ∈ introduced mark t) :
    c = mark ∨ c ∈ t := by
  cases t with
  | nil => cases h
  | cons first rest => exact List.mem_cons.mp h

theorem rooted_rooted (path : Text) : rooted (rooted path) = rooted path := by
  cases path with
  | nil => rfl
  | cons c rest =>
    by_cases h : c = '/'
    · rw [rooted, if_pos h, rooted, if_pos h]
    · rw [rooted, if_neg h]
      rfl

theorem mem_rooted {c : Char} {path : Text} (h : c ∈ rooted path) : c = '/' ∨ c ∈ path := by
  unfold rooted at h
  split at h
  · exact Or.inr h
  · split at h
    · exact Or.inr h
    · exact List.mem_cons.mp h

/-- Behind a network location a path is put as if it were rooted. -/
theorem unsplit_rooted {p : Parts} (h : p.netloc ≠ []) :
    unsplit p = unsplit { p with path := rooted p.path } := by
  have hLocation : p.netloc.isEmpty = false := List.isEmpty_eq_false_iff.mpr h
  simp only [unsplit, hasLocation, hLocation, Bool.not_false, Bool.true_or, ↓reduceIte,
    rooted_rooted]

theorem splitScheme_of_head? {url : Text} (h : ∀ c, url.head? = some c → c.isAlpha = false) :
    splitScheme url = ([], url) := by
  unfold splitScheme
  split
  · next first name rest hCut =>
    have hHead : url.head? = some first := by
      rw [eq_of_cut_eq_some hCut]
      rfl
    rw [h first hHead, Bool.false_and]
    rfl
  · rfl

theorem splitScheme_slash (rest : Text) : splitScheme ('/' :: rest) = ([], '/' :: rest) :=
  splitScheme_of_head? fun _ hc => Option.some.inj hc ▸ rfl

theorem splitScheme_of_isScheme {scheme : Text} (h : IsScheme scheme) (rest : Text) :
    splitScheme (scheme ++ ':' :: rest) = (scheme, rest) := by
  obtain ⟨c, name, rfl, hAlpha, hName, hLower⟩ := h
  have hColon : ':' ∉ c :: name := by
    intro hMem
    rcases List.mem_cons.mp hMem with rfl | hMem
    · exact absurd hAlpha (by decide)
    · exact absurd (List.all_eq_true.mp hName ':' hMem) (by decide)
  rw [splitScheme, cut_append_cons hColon]
  simp only [hAlpha, hName, Bool.and_self, ↓reduceIte, hLower]

theorem splitNetloc_append {netloc rest : Text} (h : ∀ c ∈ netloc, endsNetloc c = false)
    (hRest : ∀ c, rest.head? = some c → endsNetloc c = true) :
    splitNetloc ('/' :: '/' :: netloc ++ rest) = (netloc, rest) := by
  have hInside : ∀ c ∈ netloc, (!endsNetloc c) = true := by
    intro c hc
    rw [h c hc]
    rfl
  change (((netloc ++ rest).takeWhile fun c => !endsNetloc c),
    (netloc ++ rest).dropWhile fun c => !endsNetloc c) = _
  rw [List.takeWhile_append_of_pos hInside, List.dropWhile_append_of_pos hInside]
  cases rest with
  | nil => rw [List.takeWhile_nil, List.dropWhile_nil, List.append_nil]
  | cons c more => simp [hRest c rfl]

theorem splitNetloc_slash {rest : Text} (h : rest.head? ≠ some '/') :
    splitNetloc ('/' :: rest) = ([], '/' :: rest) := by
  unfold splitNetloc
  split
  · next hEq =>
    obtain rfl := (List.cons.inj hEq).2
    exact absurd rfl h
  · rfl

theorem IsScheme.isSchemeChar {scheme : Text} (h : IsScheme scheme) :
    ∀ c ∈ scheme, isSchemeChar c = true := by
  obtain ⟨first, name, rfl, hAlpha, hName, -⟩ := h
  intro c hc
  rcases List.mem_cons.mp hc with rfl | hc
  · simp [Uri.isSchemeChar, Char.isAlphanum, hAlpha]
  · exact List.all_eq_true.mp hName c hc

/-- No character of a class that has no tab and no line break is one of these. -/
theorem isBreak_of_class {P : Char → Bool} (hTab : P '\t' = false) (hLine : P '\n' = false)
    (hReturn : P '\r' = false) {c : Char} (h : P c = true) : isBreak c = false := by
  simp [isBreak, ne_of_class h hTab, ne_of_class h hLine, ne_of_class h hReturn]

theorem endsNetloc_of_class {P : Char → Bool} (hSlash : P '/' = false) (hQuestion : P '?' = false)
    (hNumber : P '#' = false) {c : Char} (h : P c = true) : endsNetloc c = false := by
  simp [endsNetloc, ne_of_class h hSlash, ne_of_class h hQuestion, ne_of_class h hNumber]

theorem clean_cons {c : Char} {rest : Text} (hFirst : 0x20 < c.toNat) :
    clean (c :: rest) = (c :: rest).filter fun x => !isBreak x := by
  rw [clean, List.dropWhile_cons_of_neg (by simpa using hFirst)]

theorem clean_eq_self {c : Char} {rest : Text} (hFirst : 0x20 < c.toNat)
    (hBreaks : ∀ x ∈ c :: rest, isBreak x = false) : clean (c :: rest) = c :: rest := by
  rw [clean_cons hFirst, List.filter_eq_self]
  intro x hx
  rw [hBreaks x hx]
  rfl

namespace Parts

variable {p : Parts}

def marked (p : Parts) : Text := introduced '?' p.query ++ introduced '#' p.fragment

def afterScheme (p : Parts) : Text :=
  (if hasLocation p then '/' :: '/' :: p.netloc ++ rooted p.path else p.path) ++ p.marked

theorem unsplit_eq (p : Parts) :
    unsplit p = (if p.scheme.isEmpty then [] else p.scheme ++ [':']) ++ p.afterScheme := by
  simp only [unsplit, afterScheme, marked, List.append_assoc]

theorem head_marked {c : Char} (h : p.marked.head? = some c) : c = '?' ∨ c = '#' := by
  cases hQuery : p.query with
  | cons first rest =>
    simp only [marked, hQuery, introduced] at h
    exact Or.inl (Option.some.inj h).symm
  | nil =>
    cases hFragment : p.fragment with
    | nil => simp [marked, hQuery, hFragment, introduced] at h
    | cons first rest =>
      simp only [marked, hQuery, hFragment, introduced] at h
      exact Or.inr (Option.some.inj h).symm

theorem endsNetloc_head {c : Char} (hRooted : rooted p.path = p.path)
    (h : (p.path ++ p.marked).head? = some c) : endsNetloc c = true := by
  cases hPath : p.path with
  | nil => rcases head_marked (p := p) (by simpa [hPath] using h) with rfl | rfl <;> rfl
  | cons first rest =>
    rw [hPath, rooted] at hRooted
    rw [hPath] at h
    obtain rfl := Option.some.inj h
    by_cases hSlash : first = '/'
    · rw [hSlash]
      rfl
    · rw [if_neg hSlash] at hRooted
      exact absurd (List.cons.inj hRooted).1.symm hSlash

theorem IsLocated.rooted_path (h : p.IsLocated) : rooted p.path = p.path := by
  rcases h with ⟨-, hRooted⟩ | ⟨-, rest, hPath, -⟩
  · exact hRooted
  · rw [hPath]
    rfl

theorem IsLocated.afterScheme_slash (h : p.IsLocated) : ∃ rest, p.afterScheme = '/' :: rest := by
  unfold afterScheme
  by_cases hLocation : hasLocation p = true
  · rw [if_pos hLocation]
    exact ⟨_, rfl⟩
  · rcases h with ⟨hNetloc, -⟩ | ⟨-, rest, hPath, -⟩
    · simp [hasLocation, hNetloc] at hLocation
    · rw [if_neg hLocation, hPath]
      exact ⟨_, rfl⟩

theorem WellFormed.splitNetloc_afterScheme (hForm : p.WellFormed) (h : p.IsLocated) :
    splitNetloc p.afterScheme = (p.netloc, p.path ++ p.marked) := by
  unfold afterScheme
  by_cases hLocation : hasLocation p = true
  · rw [if_pos hLocation, h.rooted_path, List.append_assoc]
    exact splitNetloc_append hForm.netloc fun _ => endsNetloc_head h.rooted_path
  · rw [if_neg hLocation]
    rcases h with ⟨hNetloc, -⟩ | ⟨hNetloc, rest, hPath, hSingle⟩
    · simp [hasLocation, hNetloc] at hLocation
    · rw [hPath, hNetloc]
      refine splitNetloc_slash ?_
      cases rest with
      | cons c more => exact hSingle
      | nil =>
        intro hHead
        rcases head_marked hHead with hMark | hMark <;> exact absurd hMark (by decide)

theorem IsLocated.unsplit_head (hForm : p.WellFormed) (h : p.IsLocated) :
    ∃ c rest, unsplit p = c :: rest ∧ 0x20 < c.toNat := by
  rw [unsplit_eq]
  rcases hForm.scheme with hScheme | ⟨c, name, hScheme, hAlpha, -, -⟩
  · obtain ⟨rest, hRest⟩ := h.afterScheme_slash
    rw [hScheme, hRest]
    exact ⟨'/', rest, rfl, by decide⟩
  · rw [hScheme]
    refine ⟨c, _, rfl, ?_⟩
    have hAlphanum := toNat_of_isAlphanum (c := c) (by rw [Char.isAlphanum, hAlpha, Bool.true_or])
    omega

theorem WellFormed.unbroken_marked (h : p.WellFormed) : ∀ c ∈ p.marked, isBreak c = false := by
  intro c hc
  rcases List.mem_append.mp hc with hc | hc
  · rcases mem_introduced hc with rfl | hc
    · rfl
    · exact h.unbroken c (by simp [hc])
  · rcases mem_introduced hc with rfl | hc
    · rfl
    · exact h.unbroken c (by simp [hc])

theorem WellFormed.unbroken_afterScheme (h : p.WellFormed) :
    ∀ c ∈ p.afterScheme, isBreak c = false := by
  intro c hc
  rcases List.mem_append.mp hc with hc | hc
  · split at hc
    · rcases List.mem_append.mp hc with hc | hc
      · rcases List.mem_cons.mp hc with rfl | hc
        · rfl
        · rcases List.mem_cons.mp hc with rfl | hc
          · rfl
          · exact h.unbroken c (by simp [hc])
      · rcases mem_rooted hc with rfl | hc
        · rfl
        · exact h.unbroken c (by simp [hc])
    · exact h.unbroken c (by simp [hc])
  · exact h.unbroken_marked c hc

theorem WellFormed.unbroken_unsplit (h : p.WellFormed) : ∀ c ∈ unsplit p, isBreak c = false := by
  intro c hc
  rw [unsplit_eq] at hc
  rcases List.mem_append.mp hc with hc | hc
  · rcases h.scheme with hScheme | hScheme
    · simp [hScheme] at hc
    · split at hc
      · cases hc
      · rcases List.mem_append.mp hc with hc | hc
        · exact isBreak_of_class (by decide) (by decide) (by decide) (hScheme.isSchemeChar c hc)
        · rw [List.mem_singleton.mp hc]
          rfl
  · exact h.unbroken_afterScheme c hc

/-- What splitting reads from well-formed and located parts is these parts. -/
theorem WellFormed.parts_unsplit (hForm : p.WellFormed) (h : p.IsLocated) :
    parts (unsplit p) = p := by
  have hClean : clean (unsplit p) = unsplit p := by
    obtain ⟨c, rest, hUnsplit, hFirst⟩ := h.unsplit_head hForm
    have hBreaks := hForm.unbroken_unsplit
    rw [hUnsplit] at hBreaks ⊢
    exact clean_eq_self hFirst hBreaks
  have hScheme : splitScheme (unsplit p) = (p.scheme, p.afterScheme) := by
    rw [unsplit_eq]
    rcases hForm.scheme with hScheme | hScheme
    · obtain ⟨rest, hRest⟩ := h.afterScheme_slash
      rw [hScheme, hRest]
      exact splitScheme_slash rest
    · have hNonempty : p.scheme.isEmpty = false := by
        obtain ⟨c, rest, hCons, -⟩ := hScheme
        rw [hCons]
        rfl
      rw [hNonempty, if_neg (by decide), List.append_assoc]
      exact splitScheme_of_isScheme hScheme _
  have hNetloc := hForm.splitNetloc_afterScheme h
  have hHash : '#' ∉ p.path ++ introduced '?' p.query := by
    intro hMem
    rcases List.mem_append.mp hMem with hMem | hMem
    · exact hForm.path_fragment hMem
    · rcases mem_introduced hMem with hMark | hMem
      · exact absurd hMark (by decide)
      · exact hForm.query_fragment hMem
  obtain ⟨hBefore, hFragment⟩ := cut_introduced hHash p.fragment
  obtain ⟨hPath, hQuery⟩ := cut_introduced hForm.path_query p.query
  rw [List.append_assoc] at hBefore hFragment
  unfold parts
  simp only [hClean, hScheme, hNetloc, marked, hBefore, hFragment, hPath, hQuery]

end Parts

/-- The checks of a URL look at its network location only. -/
theorem read_eq (url : Text) : read url =
    (match checkBrackets (parts url).netloc >>= fun _ => checkNetloc (parts url).netloc with
      | .ok _ => .ok (parts url)
      | .error cause => .error (.uri cause)) := by
  simp only [read, split]
  cases checkBrackets (parts url).netloc with
  | error cause => rfl
  | ok => cases checkNetloc (parts url).netloc <;> rfl

def IsAccepted (netloc : Text) : Prop :=
  checkBrackets netloc = .ok () ∧ checkNetloc netloc = .ok ()

theorem read_eq_ok_iff {url : Text} {p : Parts} :
    read url = .ok p ↔ IsAccepted (parts url).netloc ∧ parts url = p := by
  rw [read_eq]
  cases hBrackets : checkBrackets (parts url).netloc with
  | error cause => simp [IsAccepted, hBrackets, bind, Except.bind]
  | ok _ =>
    cases hNetloc : checkNetloc (parts url).netloc with
    | error cause => simp [IsAccepted, hNetloc, bind, Except.bind]
    | ok _ => simp [IsAccepted, hBrackets, hNetloc, bind, Except.bind]

theorem Parts.WellFormed.read_unsplit {p : Parts} (hForm : p.WellFormed) (h : p.IsLocated)
    (hAccepted : IsAccepted p.netloc) : read (unsplit p) = .ok p := by
  have hParts := hForm.parts_unsplit h
  exact read_eq_ok_iff.mpr ⟨by rwa [hParts], hParts⟩

end RequestLog.Uri

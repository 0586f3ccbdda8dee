import RequestLog.Text.Basic

/-!
# What splits are made of

The parts of a list that is split at a separator consist of elements of the list, and every element
but the separator is in one of them. A list determines what stands on either side of its first
separator, and of its last one. Writing its elements out, but no separator, can be done before or
after the split.
-/

namespace RequestLog

variable {α : Type} [DecidableEq α] {sep : α} {l before after : List α}

theorem eq_of_cut_eq_some (h : cut sep l = (before, some after)) : l = before ++ sep :: after := by
  induction l generalizing before with
  | nil => cases h
  | cons a rest ih =>
    rw [cut] at h
    split at h
    · next hSep =>
      cases h
      rw [hSep]
      rfl
    · cases hRest : cut sep rest with
      | mk first second =>
        rw [hRest] at h
        cases h
        rw [ih hRest]
        rfl

theorem eq_of_cut_eq_none (h : cut sep l = (before, none)) : l = before := by
  induction l generalizing before with
  | nil => cases h; rfl
  | cons a rest ih =>
    rw [cut] at h
    split at h
    · cases h
    · cases hRest : cut sep rest with
      | mk first second =>
        rw [hRest] at h
        cases h
        rw [ih hRest]

theorem cut_eq_some_iff : cut sep l = (before, some after) ↔
    l = before ++ sep :: after ∧ sep ∉ before := by
  constructor
  · intro h
    have hBefore := notMem_cut_fst sep l
    rw [h] at hBefore
    exact ⟨eq_of_cut_eq_some h, hBefore⟩
  · rintro ⟨rfl, hBefore⟩
    exact cut_append_cons hBefore after

theorem mem_of_mem_cut_fst {a : α} (h : a ∈ (cut sep l).1) : a ∈ l := by
  cases hCut : cut sep l with
  | mk first second =>
    rw [hCut] at h
    cases second with
    | none => exact eq_of_cut_eq_none hCut ▸ h
    | some rest =>
      rw [eq_of_cut_eq_some hCut]
      exact List.mem_append_left _ h

theorem mem_of_mem_cut_snd {a : α} (h : a ∈ (cut sep l).2.getD []) : a ∈ l := by
  cases hCut : cut sep l with
  | mk first second =>
    rw [hCut] at h
    cases second with
    | none => cases h
    | some rest =>
      rw [eq_of_cut_eq_some hCut]
      exact List.mem_append_right _ (List.mem_cons_of_mem _ h)

theorem eq_of_cutLast_eq_none (h : cutLast sep l = (none, after)) : l = after := by
  induction l generalizing after with
  | nil => cases h; rfl
  | cons a rest ih =>
    rw [cutLast] at h
    split at h
    · cases h
    · next second hRest =>
      split at h
      · cases h
      · cases h
        rw [ih hRest]

theorem eq_of_cutLast_eq_some (h : cutLast sep l = (some before, after)) :
    l = before ++ sep :: after := by
  induction l generalizing before with
  | nil => cases h
  | cons a rest ih =>
    rw [cutLast] at h
    split at h
    · next first second hRest =>
      cases h
      rw [ih hRest]
      rfl
    · next second hRest =>
      split at h
      · next hSep =>
        cases h
        rw [hSep, eq_of_cutLast_eq_none hRest]
        rfl
      · cases h

theorem notMem_cutLast_snd (sep : α) (l : List α) : sep ∉ (cutLast sep l).2 := by
  induction l with
  | nil => exact List.not_mem_nil
  | cons a rest ih =>
    rw [cutLast]
    split
    · next hRest =>
      rwa [hRest] at ih
    · next hRest =>
      rw [hRest] at ih
      split
      · exact ih
      · next hNe => exact List.not_mem_cons_of_ne_of_not_mem (Ne.symm hNe) ih

theorem cutLast_eq_some_iff : cutLast sep l = (some before, after) ↔
    l = before ++ sep :: after ∧ sep ∉ after := by
  constructor
  · intro h
    have hAfter := notMem_cutLast_snd sep l
    rw [h] at hAfter
    exact ⟨eq_of_cutLast_eq_some h, hAfter⟩
  · rintro ⟨rfl, hAfter⟩
    exact cutLast_append_cons hAfter before

theorem cut_append_of_notMem (h : sep ∉ before) (after : List α) :
    cut sep (before ++ after) = (before ++ (cut sep after).1, (cut sep after).2) := by
  induction before with
  | nil => rfl
  | cons a rest ih =>
    obtain ⟨ha, hRest⟩ := List.ne_and_not_mem_of_not_mem_cons h
    rw [List.cons_append, cut, if_neg (Ne.symm ha), ih hRest]
    rfl

theorem pieces_append_of_notMem {first : List α} {more : List (List α)} (h : sep ∉ before)
    (hAfter : pieces sep after = first :: more) :
    pieces sep (before ++ after) = (before ++ first) :: more := by
  induction before with
  | nil => exact hAfter
  | cons a rest ih =>
    obtain ⟨ha, hRest⟩ := List.ne_and_not_mem_of_not_mem_cons h
    rw [List.cons_append, pieces, if_neg (Ne.symm ha), ih hRest]
    rfl

theorem pieces_ne_nil (sep : α) (l : List α) : pieces sep l ≠ [] := by
  cases l with
  | nil => exact List.cons_ne_nil _ _
  | cons a rest =>
    rw [pieces]
    split
    · exact List.cons_ne_nil _ _
    · split
      · exact List.cons_ne_nil _ _
      · exact List.cons_ne_nil _ _

section

variable {f : α → List α} (hSep : f sep = [sep]) (hOther : ∀ a, a ≠ sep → sep ∉ f a)

include hSep hOther

/-- A list whose elements are written out, the separator as itself, is cut where it was. -/
theorem cut_flatMap (l : List α) : cut sep (l.flatMap f) =
    ((cut sep l).1.flatMap f, (cut sep l).2.map (·.flatMap f)) := by
  induction l with
  | nil => rfl
  | cons a rest ih =>
    rw [List.flatMap_cons]
    by_cases ha : a = sep
    · rw [ha, hSep, cut, if_pos rfl, List.singleton_append, cut, if_pos rfl]
      rfl
    · rw [cut_append_of_notMem (hOther a ha), ih, cut, if_neg ha]
      rfl

theorem pieces_flatMap (l : List α) :
    pieces sep (l.flatMap f) = (pieces sep l).map (·.flatMap f) := by
  induction l with
  | nil => rfl
  | cons a rest ih =>
    rw [List.flatMap_cons]
    by_cases ha : a = sep
    · rw [ha, hSep, pieces, if_pos rfl, List.singleton_append, pieces, if_pos rfl, ih]
      rfl
    · cases hRest : pieces sep rest with
      | nil => exact absurd hRest (pieces_ne_nil sep rest)
      | cons first more =>
        rw [hRest] at ih
        rw [pieces_append_of_notMem (hOther a ha) ih, pieces, if_neg ha, hRest]
        rfl

end

/-- What stands before the first separator of a list, and what follows it, are its own. -/
theorem append_cons_inj {before₁ before₂ after₁ after₂ : List α} (h₁ : sep ∉ before₁)
    (h₂ : sep ∉ before₂) :
    before₁ ++ sep :: after₁ = before₂ ++ sep :: after₂ ↔ before₁ = before₂ ∧ after₁ = after₂ := by
  constructor
  · intro h
    have hCut := congrArg (cut sep) h
    rw [cut_append_cons h₁, cut_append_cons h₂] at hCut
    cases hCut
    exact ⟨rfl, rfl⟩
  · rintro ⟨rfl, rfl⟩
    rfl

/-- The same of the last separator. -/
theorem append_cons_inj_last {before₁ before₂ after₁ after₂ : List α} (h₁ : sep ∉ after₁)
    (h₂ : sep ∉ after₂) :
    before₁ ++ sep :: after₁ = before₂ ++ sep :: after₂ ↔ before₁ = before₂ ∧ after₁ = after₂ := by
  constructor
  · intro h
    have hCut := congrArg (cutLast sep) h
    rw [cutLast_append_cons h₁, cutLast_append_cons h₂] at hCut
    cases hCut
    exact ⟨rfl, rfl⟩
  · rintro ⟨rfl, rfl⟩
    rfl

theorem exists_mem_pieces {a : α} (h : a ∈ l) (hNe : a ≠ sep) :
    ∃ piece ∈ pieces sep l, a ∈ piece := by
  induction l with
  | nil => cases h
  | cons b rest ih =>
    rw [pieces]
    split
    · next hSep =>
      rcases List.mem_cons.mp h with rfl | h
      · exact absurd hSep hNe
      · obtain ⟨piece, hPiece, hMem⟩ := ih h
        exact ⟨piece, List.mem_cons_of_mem _ hPiece, hMem⟩
    · split
      · next hRest =>
        rcases List.mem_cons.mp h with rfl | h
        · exact ⟨[a], List.mem_singleton_self _, List.mem_singleton_self _⟩
        · obtain ⟨piece, hPiece, -⟩ := ih h
          rw [hRest] at hPiece
          cases hPiece
      · next first more hRest =>
        rcases List.mem_cons.mp h with rfl | h
        · exact ⟨a :: first, List.mem_cons_self, List.mem_cons_self⟩
        · obtain ⟨piece, hPiece, hMem⟩ := ih h
          rw [hRest] at hPiece
          rcases List.mem_cons.mp hPiece with rfl | hPiece
          · exact ⟨b :: piece, List.mem_cons_self, List.mem_cons_of_mem b hMem⟩
          · exact ⟨piece, List.mem_cons_of_mem _ hPiece, hMem⟩

end RequestLog

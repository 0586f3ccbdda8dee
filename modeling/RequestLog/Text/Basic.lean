/-!
# Text and octets

Text is a list of characters and a wire value is a list of octets, so that every rule of this
library is a recursion over the data it speaks of. Two operations split such lists: `cut` at the
first separator and `cutLast` at the last one; `pieces` splits at every separator. Each loses
nothing but the separator it names.
-/

namespace RequestLog

abbrev Text := List Char

abbrev Octets := List UInt8

instance : Coe String Text := ⟨String.toList⟩

variable {α : Type} [DecidableEq α]

/-- What stands before the first separator, and what follows it if there is one. -/
def cut (sep : α) : List α → List α × Option (List α)
  | [] => ([], none)
  | a :: rest =>
    if a = sep then ([], some rest) else (a :: (cut sep rest).1, (cut sep rest).2)

theorem cut_append_cons {sep : α} {before : List α} (h : sep ∉ before) (after : List α) :
    cut sep (before ++ sep :: after) = (before, some after) := by
  induction before with
  | nil => simp [cut]
  | cons a rest ih =>
    obtain ⟨ha, hr⟩ : ¬sep = a ∧ sep ∉ rest := by simpa using h
    simp [cut, Ne.symm ha, ih hr]

theorem cut_of_notMem {sep : α} {l : List α} (h : sep ∉ l) : cut sep l = (l, none) := by
  induction l with
  | nil => rfl
  | cons a rest ih =>
    obtain ⟨ha, hr⟩ : ¬sep = a ∧ sep ∉ rest := by simpa using h
    simp [cut, Ne.symm ha, ih hr]

theorem notMem_cut_fst (sep : α) (l : List α) : sep ∉ (cut sep l).1 := by
  induction l with
  | nil => simp [cut]
  | cons a rest ih =>
    by_cases ha : a = sep
    · simp [cut, ha]
    · simp [cut, ha, ih, Ne.symm ha]

/-- What stands before the last separator if there is one, and what follows it. -/
def cutLast (sep : α) : List α → Option (List α) × List α
  | [] => (none, [])
  | a :: rest =>
    match cutLast sep rest with
    | (some before, after) => (some (a :: before), after)
    | (none, after) => if a = sep then (some [], after) else (none, a :: after)

theorem cutLast_of_notMem {sep : α} {l : List α} (h : sep ∉ l) : cutLast sep l = (none, l) := by
  induction l with
  | nil => rfl
  | cons a rest ih =>
    obtain ⟨ha, hr⟩ : ¬sep = a ∧ sep ∉ rest := by simpa using h
    simp [cutLast, Ne.symm ha, ih hr]

theorem cutLast_append_cons {sep : α} {after : List α} (h : sep ∉ after) (before : List α) :
    cutLast sep (before ++ sep :: after) = (some before, after) := by
  induction before with
  | nil => simp [cutLast, cutLast_of_notMem h]
  | cons a rest ih => simp [cutLast, ih]

/-- The parts between separators; a list without a separator is one part. -/
def pieces (sep : α) : List α → List (List α)
  | [] => [[]]
  | a :: rest =>
    if a = sep then [] :: pieces sep rest
    else match pieces sep rest with
      | [] => [[a]]
      | first :: more => (a :: first) :: more

theorem pieces_of_notMem {sep : α} {l : List α} (h : sep ∉ l) : pieces sep l = [l] := by
  induction l with
  | nil => rfl
  | cons a rest ih =>
    obtain ⟨ha, hr⟩ : ¬sep = a ∧ sep ∉ rest := by simpa using h
    simp [pieces, Ne.symm ha, ih hr]

theorem pieces_append_cons {sep : α} {first : List α} (h : sep ∉ first) (rest : List α) :
    pieces sep (first ++ sep :: rest) = first :: pieces sep rest := by
  induction first with
  | nil => simp [pieces]
  | cons a more ih =>
    obtain ⟨ha, hr⟩ : ¬sep = a ∧ sep ∉ more := by simpa using h
    simp [pieces, Ne.symm ha, ih hr]

end RequestLog

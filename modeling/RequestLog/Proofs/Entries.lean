import RequestLog.Headers
import RequestLog.Identity

/-!
# First entries and first texts

The first entry of a key is the one that counts, in header fields as in query items, and of several
texts the first that is not empty. Both are stated here by what stands before them in their list,
and the lookups of the library are shown to give exactly these.
-/

namespace RequestLog

/-- What the first entry of a key says; a key without entries says nothing. -/
inductive FirstSays {κ α : Type} (text : α → Text) (key : κ) : List (κ × α) → Text → Prop
  | first {before after : List (κ × α)} {value : α} (hBefore : ∀ entry ∈ before, entry.1 ≠ key) :
      FirstSays text key (before ++ (key, value) :: after) (text value)
  | never {entries : List (κ × α)} (hNever : ∀ entry ∈ entries, entry.1 ≠ key) :
      FirstSays text key entries []

theorem firstSays_iff {κ α : Type} [BEq κ] [LawfulBEq κ] {text : α → Text} {key : κ}
    {entries : List (κ × α)} {t : Text} : FirstSays text key entries t ↔
      ((entries.find? (·.1 == key)).map fun entry => text entry.2).getD [] = t := by
  constructor
  · intro h
    cases h with
    | @first before after value hBefore =>
      have hNone : before.find? (·.1 == key) = none :=
        List.find?_eq_none.mpr (by simpa using hBefore)
      have hFirst : ((key, value) :: after).find? (·.1 == key) = some (key, value) :=
        List.find?_cons_of_pos (beq_self_eq_true key)
      rw [List.find?_append, hNone, Option.none_or, hFirst]
      rfl
    | never hNever =>
      have hNone : entries.find? (·.1 == key) = none :=
        List.find?_eq_none.mpr (by simpa using hNever)
      rw [hNone]
      rfl
  · rintro rfl
    cases hFind : entries.find? (·.1 == key) with
    | none => exact .never (by simpa using List.find?_eq_none.mp hFind)
    | some entry =>
      obtain ⟨hKey, before, after, rfl, hBefore⟩ := List.find?_eq_some_iff_append.mp hFind
      obtain ⟨found, value⟩ := entry
      obtain rfl : found = key := by simpa using hKey
      exact .first (by simpa using hBefore)

theorem Headers.firstSays_iff_first? {headers : Headers} {name : Octets} {t : Text} :
    FirstSays Latin1.decode name headers t ↔ (headers.first? name).getD [] = t :=
  firstSays_iff

theorem Query.firstSays_iff_values {name t : Text} {items : List (Text × Text)} :
    FirstSays id name items t ↔ (Query.values name items).head?.getD [] = t := by
  rw [Query.values, List.head?_map, List.head?_filter]
  exact firstSays_iff

namespace Identity

/-- A text that is not empty, and all texts of the list before it are. -/
def IsFirstNonEmpty (texts : List Text) (t : Text) : Prop :=
  t ≠ [] ∧ ∃ before after, texts = before ++ t :: after ∧ ∀ other ∈ before, other = []

variable {t : Text} {texts : List Text}

theorem firstNonEmpty_cons_of_ne (h : t ≠ []) (texts : List Text) :
    firstNonEmpty (t :: texts) = t := by
  rw [firstNonEmpty, if_neg (by simpa using h)]

theorem firstNonEmpty_singleton (t : Text) : firstNonEmpty [t] = t := by
  by_cases h : t = []
  · rw [h]
    rfl
  · exact firstNonEmpty_cons_of_ne h []

theorem firstNonEmpty_append_of_nil {before : List Text} (h : ∀ t ∈ before, t = [])
    (texts : List Text) : firstNonEmpty (before ++ texts) = firstNonEmpty texts := by
  induction before with
  | nil => rfl
  | cons first rest ih =>
    obtain ⟨rfl, hRest⟩ := List.forall_mem_cons.mp h
    exact ih hRest

theorem isFirstNonEmpty_iff : IsFirstNonEmpty texts t ↔ t ≠ [] ∧ firstNonEmpty texts = t := by
  refine and_congr_right fun hNonempty => ?_
  constructor
  · rintro ⟨before, after, rfl, hBefore⟩
    rw [firstNonEmpty_append_of_nil hBefore, firstNonEmpty_cons_of_ne hNonempty]
  · intro h
    induction texts with
    | nil => exact absurd h.symm hNonempty
    | cons first rest ih =>
      by_cases hFirst : first = []
      · subst hFirst
        obtain ⟨before, after, rfl, hBefore⟩ := ih h
        exact ⟨[] :: before, after, rfl, List.forall_mem_cons.mpr ⟨rfl, hBefore⟩⟩
      · rw [firstNonEmpty_cons_of_ne hFirst] at h
        exact ⟨[], rest, congrArg (· :: rest) h, List.forall_mem_nil _⟩

theorem firstNonEmpty_eq_nil_iff : firstNonEmpty texts = [] ↔ ∀ t ∈ texts, t = [] := by
  induction texts with
  | nil => exact iff_of_true rfl (List.forall_mem_nil _)
  | cons first rest ih =>
    rw [List.forall_mem_cons]
    by_cases hFirst : first = []
    · subst hFirst
      exact ih.trans (and_iff_right rfl).symm
    · rw [firstNonEmpty_cons_of_ne hFirst]
      exact iff_of_false hFirst fun h => hFirst h.1

theorem firstNonEmpty_concat (texts : List Text) (t : Text) :
    firstNonEmpty (texts ++ [t]) = firstNonEmpty [firstNonEmpty texts, t] := by
  induction texts with
  | nil => rfl
  | cons first rest ih =>
    by_cases hFirst : first = []
    · subst hFirst
      exact ih
    · rw [List.cons_append, firstNonEmpty_cons_of_ne hFirst, firstNonEmpty_cons_of_ne hFirst,
        firstNonEmpty_cons_of_ne hFirst]

theorem isFirstNonEmpty_concat (h : t ≠ []) (texts : List Text) :
    IsFirstNonEmpty (texts ++ [t]) (firstNonEmpty (texts ++ [t])) := by
  refine isFirstNonEmpty_iff.mpr ⟨?_, rfl⟩
  intro hAll
  exact h (firstNonEmpty_eq_nil_iff.mp hAll t (by simp))

end Identity

end RequestLog

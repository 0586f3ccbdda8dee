import Mathlib.Data.List.Nodup
import RequestLog.Redaction

/-!
# Sorting items by name

Sorting keeps the items of each name in the order they had. Inserting an item into a sorted list
puts it behind all items of its own name, and the list stays sorted; a run of insertions is the
sort. A sorted list is determined by the values it has for each name, so this is the one stable
sort by name.
-/

namespace RequestLog.Redaction

theorem precedes_iff {a b : Item} : precedes a b = true ↔ ¬b.1 < a.1 := by
  rw [precedes, Bool.not_eq_true', decide_eq_false_iff_not]

theorem not_precedes_iff {a b : Item} : ¬precedes a b = true ↔ b.1 < a.1 := by
  rw [precedes_iff, Decidable.not_not]

theorem precedes_of_fst_eq {a b : Item} (h : a.1 = b.1) : precedes a b = true := by
  rw [precedes_iff, h]
  exact List.lt_irrefl b.1

theorem precedes_trans {a b c : Item} (hab : precedes a b = true) (hbc : precedes b c = true) :
    precedes a c = true :=
  precedes_iff.mpr (List.not_lt.mpr (List.le_trans (List.not_lt.mp (precedes_iff.mp hab))
    (List.not_lt.mp (precedes_iff.mp hbc))))

theorem precedes_of_lt {a b : Item} (h : a.1 < b.1) : precedes a b = true :=
  precedes_iff.mpr (List.lt_asymm h)

theorem precedes_total (a b : Item) : (precedes a b || precedes b a) = true := by
  rw [Bool.or_eq_true]
  by_cases h : b.1 < a.1
  · exact Or.inr (precedes_of_lt h)
  · exact Or.inl (precedes_iff.mpr h)

theorem fst_eq_of_precedes {a b : Item} (hab : precedes a b = true) (hba : precedes b a = true) :
    a.1 = b.1 :=
  List.le_antisymm (List.not_lt.mp (precedes_iff.mp hab)) (List.not_lt.mp (precedes_iff.mp hba))

def IsSorted (items : List Item) : Prop := items.Pairwise fun a b => precedes a b = true

theorem mem_insertAfterEqual {item x : Item} {items : List Item} :
    x ∈ insertAfterEqual item items ↔ x = item ∨ x ∈ items := by
  induction items with
  | nil => rw [insertAfterEqual, List.mem_singleton]; simp
  | cons first rest ih =>
    unfold insertAfterEqual
    split
    · rw [List.mem_cons, ih, List.mem_cons]
      exact or_left_comm
    · exact List.mem_cons

theorem IsSorted.insertAfterEqual {items : List Item} (h : IsSorted items) (item : Item) :
    IsSorted (insertAfterEqual item items) := by
  induction items with
  | nil => exact List.pairwise_singleton _ item
  | cons first rest ih =>
    obtain ⟨hFirst, hRest⟩ := List.pairwise_cons.mp h
    unfold Redaction.insertAfterEqual
    split
    · next hPrecedes =>
      refine List.pairwise_cons.mpr ⟨?_, ih hRest⟩
      intro x hx
      rcases mem_insertAfterEqual.mp hx with rfl | hx
      · exact hPrecedes
      · exact hFirst x hx
    · next hBefore =>
      have hLt : item.1 < first.1 := not_precedes_iff.mp hBefore
      refine List.pairwise_cons.mpr ⟨?_, h⟩
      intro x hx
      rcases List.mem_cons.mp hx with rfl | hx
      · exact precedes_of_lt hLt
      · exact precedes_trans (precedes_of_lt hLt) (hFirst x hx)

/-- An item that is inserted comes behind the items of its name and changes no others. -/
theorem IsSorted.filter_insertAfterEqual {items : List Item} (h : IsSorted items) (item : Item)
    (name : Text) :
    (Redaction.insertAfterEqual item items).filter (·.1 == name) =
      items.filter (·.1 == name) ++ [item].filter (·.1 == name) := by
  induction items with
  | nil => rfl
  | cons first rest ih =>
    obtain ⟨hFirst, hRest⟩ := List.pairwise_cons.mp h
    unfold Redaction.insertAfterEqual
    split
    · have hMore := ih hRest
      by_cases hName : first.1 = name
      · simp only [List.filter_cons, hName, beq_self_eq_true, ↓reduceIte,
          List.cons_append] at hMore ⊢
        rw [hMore]
      · simp only [List.filter_cons, beq_iff_eq, hName, ↓reduceIte] at hMore ⊢
        exact hMore
    · next hBefore =>
      have hLt : item.1 < first.1 := not_precedes_iff.mp hBefore
      by_cases hName : item.1 = name
      · have hNone : (first :: rest).filter (·.1 == name) = [] := by
          rw [List.filter_eq_nil_iff]
          intro x hx hEq
          have hPrecedes : precedes first x = true := by
            rcases List.mem_cons.mp hx with rfl | hx
            · exact precedes_of_fst_eq rfl
            · exact hFirst x hx
          rw [beq_iff_eq] at hEq
          exact precedes_iff.mp hPrecedes (by rwa [hEq, ← hName])
        rw [List.filter_cons, hNone]
        simp [hName]
      · simp [List.filter_cons, hName]

theorem IsSorted.foldl_insert {sorted : List Item} (h : IsSorted sorted) (items : List Item) :
    IsSorted (items.foldl (fun sorted item => Redaction.insertAfterEqual item sorted) sorted) := by
  induction items generalizing sorted with
  | nil => exact h
  | cons item rest ih => exact ih (h.insertAfterEqual item)

theorem IsSorted.filter_foldl_insert {sorted : List Item} (h : IsSorted sorted)
    (items : List Item) (name : Text) :
    (items.foldl (fun sorted item => Redaction.insertAfterEqual item sorted) sorted).filter
        (·.1 == name) = sorted.filter (·.1 == name) ++ items.filter (·.1 == name) := by
  induction items generalizing sorted with
  | nil => rw [List.foldl_nil, List.filter_nil, List.append_nil]
  | cons item rest ih =>
    have hCons : (item :: rest).filter (·.1 == name) =
        [item].filter (·.1 == name) ++ rest.filter (·.1 == name) :=
      List.filter_append [item] rest
    rw [List.foldl_cons, ih (h.insertAfterEqual item), h.filter_insertAfterEqual,
      List.append_assoc, hCons]

theorem isSorted_sortByName (items : List Item) : IsSorted (sortByName items) :=
  IsSorted.foldl_insert List.Pairwise.nil items

/-- Sorting is stable. -/
theorem filter_sortByName (items : List Item) (name : Text) :
    (sortByName items).filter (·.1 == name) = items.filter (·.1 == name) :=
  IsSorted.filter_foldl_insert List.Pairwise.nil items name

theorem values_sortByName (items : List Item) (name : Text) :
    Query.values name (sortByName items) = Query.values name items := by
  rw [Query.values, filter_sortByName, Query.values]

theorem values_cons (name : Text) (item : Item) (items : List Item) :
    Query.values name (item :: items) =
      if item.1 = name then item.2 :: Query.values name items else Query.values name items := by
  by_cases h : item.1 = name <;> simp [Query.values, h]

theorem mem_of_mem_values {name value : Text} {items : List Item}
    (h : value ∈ Query.values name items) : (name, value) ∈ items := by
  obtain ⟨item, hItem, rfl⟩ := List.mem_map.mp h
  obtain ⟨hMem, hName⟩ := List.mem_filter.mp hItem
  rwa [← beq_iff_eq.mp hName]

/-- No item precedes the first of a sorted list strictly, whichever list it is taken from. -/
theorem IsSorted.precedes_of_values {first item : Item} {rest items : List Item}
    (hSorted : IsSorted (first :: rest)) (hItem : item ∈ items)
    (h : ∀ name, Query.values name (first :: rest) = Query.values name items) :
    precedes first item = true := by
  have hMem : (item.1, item.2) ∈ first :: rest := by
    apply mem_of_mem_values
    rw [h item.1]
    exact List.mem_map.mpr ⟨item, List.mem_filter.mpr ⟨hItem, beq_self_eq_true item.1⟩, rfl⟩
  rcases List.mem_cons.mp hMem with rfl | hRest
  · exact precedes_of_fst_eq rfl
  · exact (List.pairwise_cons.mp hSorted).1 item hRest

/-- The values of each name, in their order, determine a sorted list. -/
theorem IsSorted.eq_of_values {items₁ items₂ : List Item} (h₁ : IsSorted items₁)
    (h₂ : IsSorted items₂) (h : ∀ name, Query.values name items₁ = Query.values name items₂) :
    items₁ = items₂ := by
  induction items₁ generalizing items₂ with
  | nil =>
    cases items₂ with
    | nil => rfl
    | cons second rest =>
      have hNone := h second.1
      rw [values_cons, if_pos rfl] at hNone
      cases hNone
  | cons first rest₁ ih =>
    cases items₂ with
    | nil =>
      have hNone := h first.1
      rw [values_cons, if_pos rfl] at hNone
      cases hNone
    | cons second rest₂ =>
      have hName : first.1 = second.1 := by
        apply fst_eq_of_precedes
        · exact h₁.precedes_of_values List.mem_cons_self h
        · exact h₂.precedes_of_values List.mem_cons_self fun name => (h name).symm
      have hValue := h first.1
      rw [values_cons, values_cons, if_pos rfl, if_pos hName.symm] at hValue
      obtain rfl : first = second := Prod.ext hName (List.cons.inj hValue).1
      have hRest (name : Text) : Query.values name rest₁ = Query.values name rest₂ := by
        have hBoth := h name
        rw [values_cons, values_cons] at hBoth
        split at hBoth
        · exact (List.cons.inj hBoth).2
        · exact hBoth
      rw [ih (List.pairwise_cons.mp h₁).2 (List.pairwise_cons.mp h₂).2 hRest]

theorem isSorted_mergeSort (items : List Item) : IsSorted (items.mergeSort precedes) := by
  apply List.pairwise_mergeSort
  · intro a b c
    exact precedes_trans
  · exact precedes_total

/-- Items of one name are in order as they stand, so the merge sort keeps them so. -/
theorem filter_mergeSort (items : List Item) (name : Text) :
    (items.mergeSort precedes).filter (·.1 == name) = items.filter (·.1 == name) := by
  have hName {a : Item} (ha : a ∈ items.filter (·.1 == name)) : a.1 = name :=
    beq_iff_eq.mp (List.mem_filter.mp ha).2
  have hOrdered : (items.filter (·.1 == name)).Pairwise fun a b => precedes a b = true := by
    apply List.pairwise_of_forall_mem_list
    intro a ha b hb
    exact precedes_of_fst_eq ((hName ha).trans (hName hb).symm)
  have hSublist : (items.filter (·.1 == name)).Sublist (items.mergeSort precedes) := by
    apply List.sublist_mergeSort
    · intro a b c
      exact precedes_trans
    · exact precedes_total
    · exact hOrdered
    · exact List.filter_sublist
  have hAgain := hSublist.filter (·.1 == name)
  simp only [List.filter_filter, Bool.and_self] at hAgain
  have hLength := ((List.mergeSort_perm items precedes).filter (·.1 == name)).length_eq
  exact (hAgain.eq_of_length hLength.symm).symm

theorem sortByName_eq_mergeSort (items : List Item) :
    sortByName items = items.mergeSort fun a b => ¬b.1 < a.1 := by
  have hOrder : precedes = fun a b => decide (¬b.1 < a.1) := by
    funext a b
    rw [Bool.eq_iff_iff, precedes_iff, decide_eq_true_iff]
  rw [← hOrder]
  apply IsSorted.eq_of_values
  · exact isSorted_sortByName items
  · exact isSorted_mergeSort items
  · intro name
    rw [values_sortByName, Query.values, Query.values, filter_mergeSort]

/-- Redaction leaves the values of a name that it does not replace. -/
theorem values_redactItems {found : List Text} {name : Text} (h : name ∉ found) (marker : Text)
    (items : List Item) :
    Query.values name (redactItems found marker items) = Query.values name items := by
  have hKept : (items.filter fun item => !found.contains item.1).filter (·.1 == name) =
      items.filter (·.1 == name) := by
    rw [List.filter_filter]
    refine List.filter_congr ?_
    intro item _
    by_cases hName : item.1 = name
    · simp [hName, h]
    · simp [hName]
  have hMarkers : (found.map fun name => (name, marker)).filter (·.1 == name) = [] := by
    rw [List.filter_eq_nil_iff]
    intro item hItem hName
    obtain ⟨listed, hListed, rfl⟩ := List.mem_map.mp hItem
    exact h (beq_iff_eq.mp hName ▸ hListed)
  rw [redactItems, values_sortByName, Query.values, List.filter_append, hKept, hMarkers,
    List.append_nil, Query.values]

theorem nodup_eraseDups (names : List Text) : names.eraseDups.Nodup := by
  induction hLength : names.length using Nat.strongRecOn generalizing names with
  | ind length ih =>
    cases names with
    | nil => exact List.nodup_nil
    | cons name rest =>
      have hShorter : (rest.filter fun x => !x == name).length < length := by
        have := List.length_filter_le (fun x => !x == name) rest
        rw [List.length_cons] at hLength
        omega
      rw [List.eraseDups_cons]
      apply List.nodup_cons.mpr
      constructor
      · rw [List.mem_eraseDups]
        simp
      · exact ih _ hShorter _ rfl

/-- The one value of a name that is replaced is the marker. -/
theorem values_redactItems_of_mem {found : List Text} {name : Text} (hNodup : found.Nodup)
    (h : name ∈ found) (marker : Text) (items : List Item) :
    Query.values name (redactItems found marker items) = [marker] := by
  have hGone : (items.filter fun item => !found.contains item.1).filter (·.1 == name) = [] := by
    rw [List.filter_eq_nil_iff]
    intro item hItem hName
    obtain ⟨-, hKept⟩ := List.mem_filter.mp hItem
    rw [beq_iff_eq.mp hName] at hKept
    simp [h] at hKept
  have hOnce : found.filter (· == name) = [name] := by
    rw [List.filter_beq, List.count_eq_one_of_mem hNodup h]
    rfl
  have hMarker : (found.map fun name => (name, marker)).filter (·.1 == name) =
      [(name, marker)] := by
    rw [List.filter_map]
    change (found.filter (· == name)).map (fun name => (name, marker)) = _
    rw [hOnce]
    rfl
  rw [redactItems, values_sortByName, Query.values, List.filter_append, hGone, hMarker]
  rfl

end RequestLog.Redaction

import RequestLog.Proofs.Text.Escapes
import RequestLog.Text.Query

/-!
# Reading a query back

Writing items and reading the query that was written gives the same items in the same order, empty
names and values included. A written query consists of unreserved characters, plus and percent
signs, and of the two separators.
-/

namespace RequestLog.Query

def isComponentChar (c : Char) : Bool := Percent.isUnreserved c || c == '+' || c == '%'

theorem isAscii_of_isComponentChar {c : Char} (h : isComponentChar c = true) : c.toNat < 128 := by
  simp only [isComponentChar, Bool.or_eq_true, beq_iff_eq] at h
  rcases h with (h | rfl) | rfl
  · exact Percent.isAscii_of_isUnreserved h
  all_goals decide

theorem isComponentChar_of_isUnreserved {c : Char} (h : Percent.isUnreserved c = true) :
    isComponentChar c = true := by
  rw [isComponentChar, h]
  rfl

theorem isComponentChar_renderOctet (b : UInt8) :
    ∀ c ∈ renderOctet b, isComponentChar c = true := by
  unfold renderOctet
  split
  · intro c hc
    rw [List.mem_singleton.mp hc]
    rfl
  · exact Percent.forall_mem_escapeBy (P := fun c => isComponentChar c = true) rfl (by decide)
      (fun _ => isComponentChar_of_isUnreserved) b

theorem isComponentChar_renderComponent (t : Text) :
    ∀ c ∈ renderComponent t, isComponentChar c = true := by
  intro c hc
  obtain ⟨b, -, hb⟩ := List.mem_flatMap.mp hc
  exact isComponentChar_renderOctet b c hb

theorem isAscii_renderComponent (t : Text) : IsAscii (renderComponent t) :=
  fun c hc => isAscii_of_isComponentChar (isComponentChar_renderComponent t c hc)

theorem plusToSpace_append (a b : Octets) :
    plusToSpace (a ++ b) = plusToSpace a ++ plusToSpace b := List.map_append

theorem plusToSpace_of_notMem {octets : Octets} (h : (43 : UInt8) ∉ octets) :
    plusToSpace octets = octets := by
  induction octets with
  | nil => rfl
  | cons b rest ih =>
    obtain ⟨hFirst, hRest⟩ : ¬43 = b ∧ (43 : UInt8) ∉ rest := by simpa using h
    change (if b = 43 then 32 else b) :: plusToSpace rest = b :: rest
    rw [if_neg (Ne.symm hFirst), ih hRest]

theorem component_renderOctet_append (b : UInt8) (rest : Octets) :
    component (asciiOctets (renderOctet b) ++ rest) = b :: component rest := by
  by_cases hSpace : b = 32
  · subst hSpace
    exact Percent.unescape_cons_of_ne (by decide) _
  · have hPlus : (43 : UInt8) ∉ asciiOctets (Percent.escapeBy Percent.isUnreserved b) := by
      refine notMem_asciiOctets (c := '+') ?_ (by decide) ?_
      · exact Percent.forall_mem_escapeBy (by decide) Percent.toNat_upperHex
          (fun _ => Percent.isAscii_of_isUnreserved) b
      · intro hMem
        refine Percent.forall_mem_escapeBy (P := fun c => c ≠ '+') (by decide) (by decide) ?_ b '+'
          hMem rfl
        rintro c hKeep rfl
        exact absurd hKeep (by decide)
    have hSplit : plusToSpace (asciiOctets (Percent.escapeBy Percent.isUnreserved b) ++ rest) =
        asciiOctets (Percent.escapeBy Percent.isUnreserved b) ++ plusToSpace rest := by
      rw [plusToSpace_append, plusToSpace_of_notMem hPlus]
    rw [renderOctet, if_neg hSpace, component, hSplit]
    exact Percent.unescape_escapeBy_append (by decide) b _

theorem component_renderComponent (t : Text) :
    component (asciiOctets (renderComponent t)) = Utf8.encode t := by
  unfold renderComponent
  induction Utf8.encode t with
  | nil => rfl
  | cons b rest ih =>
    rw [List.flatMap_cons, asciiOctets_append, component_renderOctet_append, ih]

theorem itemOf_renderItem (item : Text × Text) :
    itemOf (asciiOctets (renderItem item)) = (Utf8.encode item.1, Utf8.encode item.2) := by
  have hName : (61 : UInt8) ∉ asciiOctets (renderComponent item.1) :=
    notMem_asciiOctets (c := '=') (isAscii_renderComponent item.1) (by decide)
      (notMem_of_class (isComponentChar_renderComponent item.1) (by decide))
  have hCut : cut 61 (asciiOctets (renderItem item)) =
      (asciiOctets (renderComponent item.1), some (asciiOctets (renderComponent item.2))) := by
    rw [renderItem, asciiOctets_append]
    exact cut_append_cons hName _
  rw [itemOf, hCut]
  change (component (asciiOctets (renderComponent item.1)),
    component (asciiOctets (renderComponent item.2))) = _
  rw [component_renderComponent, component_renderComponent]

theorem isAscii_renderItem (item : Text × Text) : IsAscii (renderItem item) := by
  refine (isAscii_renderComponent item.1).append ?_
  intro c hc
  rcases List.mem_cons.mp hc with rfl | hc
  · decide
  · exact isAscii_renderComponent item.2 c hc

def isItemChar (c : Char) : Bool := isComponentChar c || c == '='

theorem isItemChar_renderItem (item : Text × Text) :
    ∀ c ∈ renderItem item, isItemChar c = true := by
  intro c hc
  rcases List.mem_append.mp hc with hc | hc
  · rw [isItemChar, isComponentChar_renderComponent item.1 c hc, Bool.true_or]
  · rcases List.mem_cons.mp hc with rfl | hc
    · rfl
    · rw [isItemChar, isComponentChar_renderComponent item.2 c hc, Bool.true_or]

theorem asciiOctets_intercalate (separator : Char) (texts : List Text) :
    asciiOctets (List.intercalate [separator] texts) =
      List.intercalate [UInt8.ofNat separator.toNat] (texts.map asciiOctets) := by
  induction texts with
  | nil => rfl
  | cons first rest ih =>
    cases rest with
    | nil => simp only [List.map_cons, List.map_nil, List.intercalate_singleton]
    | cons second more =>
      rw [List.intercalate_cons_cons, List.map_cons, List.map_cons, List.intercalate_cons_cons,
        ← List.map_cons, ← ih, asciiOctets_append, asciiOctets_append]
      rfl

theorem mem_intercalate {separator c : Char} {texts : List Text}
    (h : c ∈ List.intercalate [separator] texts) : c = separator ∨ ∃ t ∈ texts, c ∈ t := by
  induction texts with
  | nil => cases h
  | cons first rest ih =>
    cases rest with
    | nil =>
      rw [List.intercalate_singleton] at h
      exact Or.inr ⟨first, List.mem_cons_self, h⟩
    | cons second more =>
      rw [List.intercalate_cons_cons, List.append_assoc] at h
      rcases List.mem_append.mp h with h | h
      · exact Or.inr ⟨first, List.mem_cons_self, h⟩
      · rcases List.mem_append.mp h with h | h
        · exact Or.inl (List.mem_singleton.mp h)
        · rcases ih h with h | ⟨t, ht, hc⟩
          · exact Or.inl h
          · exact Or.inr ⟨t, List.mem_cons_of_mem first ht, hc⟩

theorem pieces_intercalate {first : Octets} {rest : List Octets} {separator : UInt8}
    (h : ∀ piece ∈ first :: rest, separator ∉ piece) :
    pieces separator (List.intercalate [separator] (first :: rest)) = first :: rest := by
  induction rest generalizing first with
  | nil =>
    rw [List.intercalate_singleton]
    exact pieces_of_notMem (h first List.mem_cons_self)
  | cons second more ih =>
    rw [List.intercalate_cons_cons, List.append_assoc]
    change pieces separator
      (first ++ separator :: List.intercalate [separator] (second :: more)) = _
    rw [pieces_append_cons (h first List.mem_cons_self),
      ih fun piece hPiece => h piece (List.mem_cons_of_mem first hPiece)]

theorem isAscii_render (items : List (Text × Text)) : IsAscii (render items) := by
  intro c hc
  rcases mem_intercalate hc with rfl | ⟨t, ht, hc⟩
  · decide
  · obtain ⟨item, -, rfl⟩ := List.mem_map.mp ht
    exact isAscii_renderItem item c hc

def isRenderedChar (c : Char) : Bool := isItemChar c || c == '&'

theorem isRenderedChar_render (items : List (Text × Text)) :
    ∀ c ∈ render items, isRenderedChar c = true := by
  intro c hc
  rcases mem_intercalate hc with rfl | ⟨t, ht, hc⟩
  · rfl
  · obtain ⟨item, -, rfl⟩ := List.mem_map.mp ht
    rw [isRenderedChar, isItemChar_renderItem item c hc, Bool.true_or]

theorem octetItems_render (items : List (Text × Text)) :
    octetItems (Utf8.encode (render items)) =
      items.map fun item => (Utf8.encode item.1, Utf8.encode item.2) := by
  cases items with
  | nil => rfl
  | cons first rest =>
    have hPieces : pieces 38 (Utf8.encode (render (first :: rest))) =
        (first :: rest).map fun item => asciiOctets (renderItem item) := by
      rw [encode_of_isAscii (isAscii_render _), render, asciiOctets_intercalate, List.map_map]
      refine pieces_intercalate ?_
      rw [← List.map_cons]
      intro piece hPiece
      obtain ⟨item, -, rfl⟩ := List.mem_map.mp hPiece
      exact notMem_asciiOctets (c := '&') (isAscii_renderItem item) (by decide)
        (notMem_of_class (isItemChar_renderItem item) (by decide))
    have hNonempty : ∀ piece ∈ (first :: rest).map fun item => asciiOctets (renderItem item),
        (!piece.isEmpty) = true := by
      intro piece hPiece
      obtain ⟨item, -, rfl⟩ := List.mem_map.mp hPiece
      simp [asciiOctets, renderItem]
    rw [octetItems, hPieces, List.filter_eq_self.mpr hNonempty, List.map_map]
    exact List.map_congr_left fun item _ => itemOf_renderItem item

theorem items_render (items : List (Text × Text)) : Query.items (render items) = items := by
  rw [Query.items, octetItems_render, List.map_map]
  refine Eq.trans (List.map_congr_left ?_) (List.map_id items)
  intro item _
  change (Utf8.decodeLossy (Utf8.encode item.1), Utf8.decodeLossy (Utf8.encode item.2)) = item
  rw [Utf8.decodeLossy_encode, Utf8.decodeLossy_encode]

end RequestLog.Query

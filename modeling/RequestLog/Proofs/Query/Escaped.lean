import RequestLog.Proofs.Query.Reread
import RequestLog.Proofs.Text.Respelling
import RequestLog.Proofs.Text.Splits

/-!
# Reading an escaped query

A query can be written anew with more of its octets escaped, as long as percent signs, digits of
escapes and the marks of a query are kept. It has the same pieces then, cut where they were, and
each piece is read as the same name and value.
-/

namespace RequestLog.Query

open Percent

/-- Escapes are kept, and so are plus signs and the separators of items and of their values. -/
structure KeepsMarks (keep : Char → Bool) : Prop extends KeepsEscapes keep where
  plus : keep '+' = true
  ampersand : keep '&' = true
  equals : keep '=' = true

variable {keep : Char → Bool}

theorem respelled_plusToSpace (h : KeepsMarks keep) (octets : Octets) :
    Respelled (plusToSpace octets) (plusToSpace (escapedOctets keep octets)) := by
  induction octets with
  | nil => exact .nil
  | cons b rest ih =>
    rw [escapedOctets, List.flatMap_cons, plusToSpace_append]
    rcases escapeBy_cases keep b with hSame | ⟨hKeep, hEscaped⟩
    · rw [hSame]
      exact .kept _ ih
    · obtain ⟨hPercent, hDigit⟩ := h.of_not_kept hKeep
      have hPlus : b ≠ 43 := by
        rintro rfl
        exact absurd (h.plus.symm.trans hKeep) (by decide)
      have hFirst : plusToSpace (b :: rest) = b :: plusToSpace rest := by
        change (if b = 43 then 32 else b) :: plusToSpace rest = _
        rw [if_neg hPlus]
      rw [hEscaped, hFirst, plusToSpace_of_notMem (notMem_escapeOctet (by decide) (by decide) b)]
      exact .escaped hPercent hDigit ih

theorem component_escapedOctets (h : KeepsMarks keep) (octets : Octets) :
    component (escapedOctets keep octets) = component octets :=
  (respelled_plusToSpace h octets).unescape_eq

theorem itemOf_escapedOctets (h : KeepsMarks keep) (piece : Octets) :
    itemOf (escapedOctets keep piece) = itemOf piece := by
  have hCut : cut 61 (escapedOctets keep piece) =
      (escapedOctets keep (cut 61 piece).1, (cut 61 piece).2.map (escapedOctets keep)) :=
    cut_flatMap (asciiOctets_escapeBy (b := 61) h.equals)
      (fun a => notMem_escapeBy (by decide) (by decide)) piece
  have hValue : ((cut 61 piece).2.map (escapedOctets keep)).getD [] =
      escapedOctets keep ((cut 61 piece).2.getD []) := by
    cases (cut 61 piece).2 <;> rfl
  rw [itemOf, hCut, hValue, component_escapedOctets h, component_escapedOctets h]
  rfl

theorem isEmpty_escapedOctets (keep : Char → Bool) (piece : Octets) :
    (escapedOctets keep piece).isEmpty = piece.isEmpty := by
  cases piece with
  | nil => rfl
  | cons b rest =>
    rw [escapedOctets, List.flatMap_cons]
    rcases escapeBy_cases keep b with hSame | ⟨-, hEscaped⟩
    · rw [hSame]
      rfl
    · rw [hEscaped]
      rfl

theorem octetItems_escapedOctets (h : KeepsMarks keep) (query : Octets) :
    octetItems (escapedOctets keep query) = octetItems query := by
  have hPieces : pieces 38 (escapedOctets keep query) =
      (pieces 38 query).map (escapedOctets keep) :=
    pieces_flatMap (asciiOctets_escapeBy (b := 38) h.ampersand)
      (fun a => notMem_escapeBy (by decide) (by decide)) query
  rw [octetItems, hPieces, List.filter_map, List.map_map, octetItems]
  have hKept : (fun piece : Octets => !piece.isEmpty) ∘ escapedOctets keep =
      fun piece => !piece.isEmpty := by
    funext piece
    exact congrArg (!·) (isEmpty_escapedOctets keep piece)
  rw [hKept]
  exact List.map_congr_left fun piece _ => itemOf_escapedOctets h piece

end RequestLog.Query

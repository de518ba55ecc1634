import Mathlib.Data.List.TakeDrop
import MailIndex.Proofs.Regex.Escaped

namespace MailIndex

namespace Regex

namespace Shape

def textParts (bytes : Bytes) : List Shape := if bytes = [] then [] else [.literal bytes]

def containsParts (start needle : Bytes) : List Shape :=
  .place .textStart false :: textParts start ++
    .times (.octets anyOctet) 0 none false :: textParts needle

theorem extents_eq (backward : Bool) (found : List Extent) (ss : List Shape) :
    extents backward found ss = (ss.map (extent backward)).reverse ++ found := by
  induction ss generalizing found with
  | nil => rfl
  | cons s ss ih =>
    rw [extents, ih]
    simp

theorem extent_literal (backward : Bool) (bytes : Bytes) :
    (literal bytes).extent backward = ⟨false, some true, false, false, 32 * bytes.length⟩ := rfl

theorem extent_any (backward : Bool) :
    (times (octets anyOctet) 0 none false).extent backward =
      ⟨false, some false, false, false, 112⟩ := rfl

theorem extent_textStart (backward : Bool) :
    (place .textStart false).extent backward = ⟨true, some false, true, false, 32⟩ := rfl

theorem extent_containsParts (start needle : Bytes) (backward : Bool) :
    (concat (containsParts start needle)).extent backward =
      ⟨false, some (decide (start ≠ [] ∨ needle ≠ [])), true, false,
        144 + 32 * (start.length + needle.length)⟩ := by
  rw [extent, extents_eq, List.append_nil, containsParts, textParts, textParts]
  by_cases hstart : start = [] <;> by_cases hneedle : needle = [] <;>
    simp [hstart, hneedle, extent_textStart, extent_literal, extent_any, Extent.concat,
      Extent.upToFirst, List.span_eq_takeWhile_dropWhile, total] <;>
    omega

theorem room_containsParts (start needle : Bytes) (backward : Bool) :
    (concat (containsParts start needle)).room backward =
      (if backward then 288 else 272) + 32 * (start.length + needle.length) := by
  have hsearch : stateRoom 0 2 + intervalsRoom (.range 0 255) = 112 := rfl
  have hstate : stateRoom 0 0 = 32 := rfl
  rw [room, extent_containsParts]
  cases backward with
  | false =>
    simp only [hstate, Bool.false_eq_true, if_false, if_true]
    omega
  | true =>
    simp only [hsearch, hstate, Bool.false_eq_true, if_false, if_true]
    omega

theorem isSmall_containsParts (start needle : Bytes) :
    (concat (containsParts start needle)).isSmall = true ↔
      start.length + needle.length ≤ 327671 := by
  simp only [isSmall, List.all_cons, List.all_nil, Bool.and_true, Bool.and_eq_true,
    decide_eq_true_eq, room_containsParts, roomLimit]
  simp
  omega

theorem foldr_before_literals (bytes : Bytes) {ss : List Shape}
    (hss : ∀ octets rest, ss ≠ literal octets :: rest) :
    (bytes.map fun b => literal [b]).foldr before ss = textParts bytes ++ ss := by
  induction bytes with
  | nil => rfl
  | cons b bytes ih =>
    rw [List.map_cons, List.foldr_cons, ih, textParts, textParts, if_neg (List.cons_ne_nil _ _)]
    cases bytes with
    | nil =>
      cases ss with
      | nil => rfl
      | cons s rest =>
        cases s with
        | literal octets => exact absurd rfl (hss octets rest)
        | _ => rfl
    | cons b' bytes => rfl

theorem shape_containsPieces (start needle : Bytes) :
    (Piece.ofReversed (containsPieces start needle)).shape =
      concat (containsParts start needle) := by
  have hparts : ∀ bytes : Bytes, ((bytes.map octetPiece).map (·.shape)).flatMap parts =
      bytes.map fun b => literal [b] := by
    intro bytes
    induction bytes with
    | nil => rfl
    | cons b bytes ih => exact congrArg (literal [b] :: ·) ih
  have hfolded : (((anchor :: (start.map octetPiece ++ gap :: needle.map octetPiece)).map
      (·.shape)).flatMap parts).foldr before [] = containsParts start needle := by
    simp only [List.map_cons, List.map_append, List.flatMap_cons, List.flatMap_append, hparts]
    change before _ (List.foldr before [] (_ ++ ([_] ++ _))) = _
    rw [List.foldr_append, List.foldr_append, foldr_before_literals needle (by simp),
      List.append_nil]
    change before _ (List.foldr before (.times (.octets anyOctet) 0 none false ::
      textParts needle) _) = _
    rw [foldr_before_literals start (by simp)]
    rfl
  rw [ofReversed_of_two_le (length_containsPieces start needle), reverse_containsPieces]
  change sequence _ = _
  rw [sequence, hfolded, containsParts]
  cases textParts start with
  | nil => rfl
  | cons s rest => rfl

end Shape

/-- The longest text and needle together that leave room for a pattern. -/
def containsLimit : Nat := 327671

theorem ofPattern?_rowContains (start needle : Bytes) :
    ofPattern? (String.ofList
      ('^' :: Filter.escapedChars start ++ ".*?".toList ++ Filter.escapedChars needle)) =
      if start.length + needle.length ≤ containsLimit then some (containsRegex start needle)
      else none := by
  rw [ofPattern?_contains]
  change (if _ then some (Piece.ofReversed (containsPieces start needle)).regex else none) = _
  have hcurrent : ({ Reading.start with pieces := containsPieces start needle } : Reading).current =
      Piece.ofReversed (containsPieces start needle) := rfl
  have hdepth := depth_containsPieces start needle
  have hshape := Shape.shape_containsPieces start needle
  rw [hcurrent, hdepth, hshape, regex_containsPieces]
  have hsmall : (decide (2 ≤ depthLimit) &&
      (Shape.concat (Shape.containsParts start needle)).isSmall) = true ↔
        start.length + needle.length ≤ containsLimit := by
    rw [Bool.and_eq_true, Shape.isSmall_containsParts]
    exact and_iff_right (by decide)
  by_cases h : start.length + needle.length ≤ containsLimit
  · rw [if_pos h, if_pos (hsmall.2 h)]
  · rw [if_neg h, if_neg (fun h' => h (hsmall.1 h'))]

end Regex

end MailIndex

import ComponentQueries.Proofs.Text.LineTables
import Mathlib.Data.Prod.Lex

/-! From offsets in bytes to points of a text. The point at an offset is the one behind the
characters that the bytes before it spell, and later offsets lead to no earlier points. -/
namespace ComponentQueries

namespace Text

/-- The size in bytes is that of the text as a string. -/
theorem utf8ByteSize_ofList (text : List Char) :
    (String.ofList text).utf8ByteSize = byteLength text := by
  induction text with
  | nil => rfl
  | cons c rest ih =>
      rw [← List.singleton_append, String.ofList_append, String.utf8ByteSize_append, ih]
      simp

theorem cut_of_whole {c : Char} {offset start stop : Nat} (hStart : start ≤ offset)
    (hStop : offset + c.utf8Size ≤ stop) : cut c offset start stop = [c] := by
  have hSize := c.utf8Size_pos
  rw [cut, if_neg (by omega), if_pos hStart, if_pos hStop]

/-- A character of which only the first bytes are taken is read as one replacement. -/
theorem cut_of_part {c : Char} {offset start stop : Nat} (hStart : start ≤ offset)
    (hSome : offset < stop) (hPart : stop < offset + c.utf8Size) :
    cut c offset start stop = [replacement] := by
  rw [cut, if_neg (by omega), if_pos hStart, if_neg (by omega)]

/-- Reading bytes moves the point over the characters that they spell. The bytes are those
from `offset` on, which is where the text begins. -/
theorem advance_eq_foldl_sliceFrom (position : Position) {offset start : Nat} (stop : Nat)
    (hStart : start ≤ offset) (text : List Char) :
    position.advance text (stop - offset) =
      (sliceFrom offset start stop text).foldl Position.after position := by
  induction text generalizing position offset with
  | nil => rfl
  | cons c rest ih =>
      have hSize := c.utf8Size_pos
      have hNext : start ≤ offset + c.utf8Size := by omega
      rw [Position.advance]
      by_cases hNone : stop ≤ offset
      · rw [if_pos (by omega), sliceFrom_eq_nil (c :: rest) (Or.inl hNone)]
        rfl
      · rw [if_neg (by omega), sliceFrom]
        by_cases hPart : stop < offset + c.utf8Size
        · rw [if_pos (by omega), cut_of_part hStart (by omega) hPart,
            sliceFrom_eq_nil rest (Or.inl (by omega))]
          simp [Position.after, replacement]
        · rw [if_neg (by omega), cut_of_whole hStart (by omega), Nat.sub_sub, ih _ hNext]
          rfl

/-- The point at an offset is the one behind what the bytes before it spell. -/
theorem positionAt_eq_pointAfter_slice (text : List Char) (bytes : Nat) :
    positionAt text bytes = pointAfter (slice text 0 bytes) := by
  have hAdvance := advance_eq_foldl_sliceFrom Position.origin bytes (Nat.le_refl 0) text
  rw [Nat.sub_zero, foldl_after_eq_pointAfter] at hAdvance
  exact hAdvance

/-- More bytes spell no fewer characters. -/
theorem length_sliceFrom_mono {offset start first second : Nat} (hStart : start ≤ offset)
    (hLe : first ≤ second) (text : List Char) :
    (sliceFrom offset start first text).length ≤ (sliceFrom offset start second text).length := by
  induction text generalizing offset with
  | nil => exact Nat.le_refl _
  | cons c rest ih =>
      have hNext : start ≤ offset + c.utf8Size := by omega
      have hCut : (cut c offset start first).length ≤ (cut c offset start second).length := by
        by_cases hNone : first ≤ offset
        · rw [cut, if_pos (Or.inl hNone)]
          exact Nat.zero_le _
        · by_cases hPart : first < offset + c.utf8Size
          · rw [cut_of_part hStart (by omega) hPart]
            by_cases hPart' : second < offset + c.utf8Size
            · rw [cut_of_part hStart (by omega) hPart']
            · rw [cut_of_whole hStart (by omega)]
              exact Nat.le_refl _
          · rw [cut_of_whole hStart (by omega), cut_of_whole hStart (by omega)]
      rw [sliceFrom, sliceFrom, List.length_append, List.length_append]
      exact Nat.add_le_add hCut (ih hNext)

end Text

namespace Position

/-- A point does not lie behind another, neither by offset nor by line and column. -/
structure NotAfter (first second : Position) : Prop where
  offset : first.offset ≤ second.offset
  place : toLex (first.line, first.column) ≤ toLex (second.line, second.column)

end Position

namespace Text

theorem pointAfter_notAfter_append (left right : List Char) :
    (pointAfter left).NotAfter (pointAfter (left ++ right)) := by
  constructor
  · simp only [pointAfter, List.length_append]
    omega
  · rw [Prod.Lex.toLex_le_toLex, pointAfter_append]
    by_cases hFeed : '\n' ∈ right
    · have hCount : 0 < right.count '\n' := List.count_pos_iff.mpr hFeed
      left
      simp only [pointAfter]
      omega
    · have hCount : right.count '\n' = 0 := List.count_eq_zero.mpr hFeed
      right
      simp only [pointAfter, hCount]
      constructor
      · omega
      · simp
        omega

/-- Points of one text are in the order of their offsets. -/
theorem pointAfter_notAfter_of_length {first second rest others : List Char}
    (hSame : first ++ rest = second ++ others) (hLe : first.length ≤ second.length) :
    (pointAfter first).NotAfter (pointAfter second) := by
  have hFirst : first <+: second ++ others := ⟨rest, hSame⟩
  obtain ⟨between, rfl⟩ := List.prefix_of_prefix_length_le hFirst ⟨others, rfl⟩ hLe
  exact pointAfter_notAfter_append first between

theorem positionAt_notAfter (text : List Char) {first second : Nat} (hLe : first ≤ second) :
    (positionAt text first).NotAfter (positionAt text second) := by
  obtain ⟨before, rest, hText, hPoint⟩ := exists_positionAt_eq text first
  obtain ⟨before', rest', hText', hPoint'⟩ := exists_positionAt_eq text second
  have hOffset : (positionAt text first).offset ≤ (positionAt text second).offset := by
    rw [positionAt_eq_pointAfter_slice, positionAt_eq_pointAfter_slice]
    exact Int.ofNat_le.mpr (length_sliceFrom_mono (Nat.le_refl 0) hLe text)
  rw [hPoint, hPoint'] at hOffset ⊢
  exact pointAfter_notAfter_of_length (hText.symm.trans hText') (Int.ofNat_le.mp hOffset)

/-- At the size of a beginning of the text is the point behind that beginning, at any offset
the point behind what the bytes before it spell, which is also the one that the tables of lines
lead to. Later offsets lead to no earlier points, and line and column of each point lead back to
its offset. -/
theorem positionAt_exact_monotone (text : List Char) :
    (∀ before after, text = before ++ after →
      positionAt text (String.ofList before).utf8ByteSize =
        ⟨1 + before.count '\n', 1 + (lastLine before).length, before.length⟩) ∧
      (∀ bytes, positionAt text bytes = pointAfter (slice text 0 bytes) ∧
        tablePosition text bytes = positionAt text bytes) ∧
      (∀ first second, first ≤ second →
        (positionAt text first).NotAfter (positionAt text second)) ∧
      ∀ bytes, offsetOf text (positionAt text bytes).line (positionAt text bytes).column =
        (positionAt text bytes).offset := by
  refine ⟨?_, fun bytes => ⟨positionAt_eq_pointAfter_slice text bytes, ?_⟩,
    fun first second => positionAt_notAfter text, ?_⟩
  · rintro before after rfl
    rw [utf8ByteSize_ofList, positionAt_eq_pointAfter]
    rfl
  · rw [tablePosition_eq_pointAfter, positionAt_eq_pointAfter_slice]
  · intro bytes
    obtain ⟨before, after, rfl, hPoint⟩ := exists_positionAt_eq text bytes
    rw [hPoint]
    exact (isPoint_pointAfter before after).offsetOf_eq

/-- Two bytes of a letter, a line feed, four bytes of a picture and one more letter. An offset
in the middle of the picture leads behind it, and one past the end leads to the end. -/
theorem positionAt_exact_monotone_picture :
    let text := "é\n😀b".toList
    (String.ofList "é\n😀".toList).utf8ByteSize = 7 ∧ positionAt text 7 = ⟨2, 2, 3⟩ ∧
      slice text 0 5 = ['é', '\n', replacement] ∧ positionAt text 5 = ⟨2, 2, 3⟩ ∧
      byteStarts text = [0, 3] ∧ charStarts text = [0, 2] ∧ tablePosition text 5 = ⟨2, 2, 3⟩ ∧
      positionAt text 2 = ⟨1, 2, 1⟩ ∧ positionAt text 100 = ⟨2, 3, 4⟩ ∧
      (positionAt text 2).NotAfter (positionAt text 5) ∧
      (positionAt text 5).NotAfter (positionAt text 100) ∧ offsetOf text 2 2 = 3 := by
  intro text
  obtain ⟨hExact, hSpelt, hOrder, hBack⟩ := positionAt_exact_monotone text
  have hSlice : slice text 0 5 = ['é', '\n', replacement] := by decide +kernel
  have hInside : positionAt text 5 = ⟨2, 2, 3⟩ := by
    rw [(hSpelt 5).1, hSlice]
    decide +kernel
  have hOffset := hBack 5
  rw [hInside] at hOffset
  exact ⟨by decide +kernel, hExact "é\n😀".toList ['b'] (by decide +kernel), hSlice, hInside,
    by decide +kernel, by decide +kernel, (hSpelt 5).2.trans hInside,
    hExact ['é'] "\n😀b".toList (by decide +kernel), by decide +kernel,
    hOrder 2 5 (by decide), hOrder 5 100 (by decide), hOffset⟩

end Text

end ComponentQueries

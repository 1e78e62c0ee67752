import ComponentQueries.Prefilter
import ComponentQueries.Text.Position

/-! Offsets between the characters of a text. A slice between two of them is a part of
the text, and a point of the text lies at only one of them. -/
namespace ComponentQueries

namespace Text

/-- An offset in bytes that lies between two characters, or at one of the two
ends of the text. -/
def IsBoundary (text : List Char) (offset : Nat) : Prop :=
  ∃ before after, text = before ++ after ∧ byteLength before = offset

/-- Taking characters off the front finds every boundary. -/
theorem isBoundary_iff_take {text : List Char} {offset : Nat} :
    IsBoundary text offset ↔ ∃ count ≤ text.length, byteLength (text.take count) = offset := by
  constructor
  · rintro ⟨before, after, rfl, h⟩
    exact ⟨before.length, by simp, by simpa using h⟩
  · rintro ⟨count, _, h⟩
    exact ⟨text.take count, text.drop count, (List.take_append_drop count text).symm, h⟩

instance (text : List Char) (offset : Nat) : Decidable (IsBoundary text offset) :=
  decidable_of_iff (∃ count, count < text.length + 1 ∧ byteLength (text.take count) = offset) <| by
    simp only [isBoundary_iff_take, Nat.lt_succ_iff]

theorem sliceFrom_append (offset start stop : Nat) (left right : List Char) :
    sliceFrom offset start stop (left ++ right) =
      sliceFrom offset start stop left ++
        sliceFrom (offset + byteLength left) start stop right := by
  induction left generalizing offset with
  | nil => simp [sliceFrom]
  | cons c rest ih => simp [sliceFrom, ih, Nat.add_assoc]

theorem sliceFrom_eq_nil {offset start stop : Nat} (text : List Char)
    (h : stop ≤ offset ∨ offset + byteLength text ≤ start) :
    sliceFrom offset start stop text = [] := by
  induction text generalizing offset with
  | nil => rfl
  | cons c rest ih =>
      rw [byteLength_cons] at h
      have hCut : cut c offset start stop = [] := if_pos (by omega)
      rw [sliceFrom, hCut, ih (by omega), List.nil_append]

theorem sliceFrom_eq_self {offset start stop : Nat} (text : List Char)
    (hStart : start ≤ offset) (hStop : offset + byteLength text ≤ stop) :
    sliceFrom offset start stop text = text := by
  induction text generalizing offset with
  | nil => rfl
  | cons c rest ih =>
      have hSize := c.utf8Size_pos
      rw [byteLength_cons] at hStop
      have hCut : cut c offset start stop = [c] := by
        rw [cut, if_neg (by omega), if_pos hStart, if_pos (by omega)]
      rw [sliceFrom, hCut, ih (by omega) (by omega), List.singleton_append]

/-- The bytes of a part in the middle of a text are the part itself. -/
theorem slice_middle (before middle after : List Char) :
    slice (before ++ (middle ++ after)) (byteLength before)
      (byteLength before + byteLength middle) = middle := by
  rw [slice, sliceFrom_append, sliceFrom_append, Nat.zero_add]
  rw [sliceFrom_eq_nil before (Or.inr (by omega)),
    sliceFrom_eq_self middle (Nat.le_refl _) (Nat.le_refl _),
    sliceFrom_eq_nil after (Or.inl (Nat.le_refl _))]
  simp

/-- A range that ends before it begins covers nothing, wherever it lies. -/
theorem slice_reversed {text : List Char} {start stop : Nat} (h : stop ≤ start) :
    slice text start stop = [] := by
  suffices hFrom : ∀ offset, sliceFrom offset start stop text = [] from hFrom 0
  induction text with
  | nil => exact fun _ => rfl
  | cons c rest ih =>
      intro offset
      have hCut : cut c offset start stop = [] := by
        by_cases hOut : stop ≤ offset ∨ offset + c.utf8Size ≤ start
        · exact if_pos hOut
        · have hNone : min (offset + c.utf8Size) stop - start = 0 := by omega
          rw [cut, if_neg hOut, if_neg (by omega), hNone, List.replicate_zero]
      rw [sliceFrom, hCut, ih, List.nil_append]

/-- A slice between boundaries puts in no replacement characters. -/
theorem slice_isInfix {text : List Char} {start stop : Nat} (hStart : IsBoundary text start)
    (hStop : IsBoundary text stop) : slice text start stop <:+: text := by
  obtain ⟨before, rest, hText, rfl⟩ := hStart
  obtain ⟨upTo, after, hText', rfl⟩ := hStop
  rcases List.append_eq_append_iff.mp (hText.symm.trans hText') with
    ⟨middle, rfl, hRest⟩ | ⟨middle, rfl, _⟩
  · rw [hText, hRest, byteLength_append, slice_middle]
    exact ⟨before, after, by simp⟩
  · rw [slice_reversed (by rw [byteLength_append]; omega)]
    exact List.nil_infix

end Text

theorem occursIn_iff_isInfix (needle text : List Char) :
    occursIn needle text = true ↔ needle <:+: text := by
  induction text with
  | nil => simp [occursIn]
  | cons c rest ih =>
      rw [occursIn, Bool.or_eq_true, List.isPrefixOf_iff_prefix, ih, List.infix_cons_iff]

namespace Position

/-- Reading whole characters moves the point over each of them in turn. -/
theorem advance_append (position : Position) (before after : List Char) (bytes : Nat) :
    position.advance (before ++ after) (Text.byteLength before + bytes) =
      (before.foldl Position.after position).advance after bytes := by
  induction before generalizing position with
  | nil => simp
  | cons c rest ih =>
      have hSize := c.utf8Size_pos
      rw [List.cons_append, advance, Text.byteLength_cons, if_neg (by omega), if_neg (by omega),
        List.foldl_cons, ← ih]
      congr 1
      omega

theorem advance_zero (position : Position) (text : List Char) :
    position.advance text 0 = position := by
  cases text <;> simp [advance]

theorem foldl_after_offset (position : Position) (text : List Char) :
    (text.foldl Position.after position).offset = position.offset + text.length := by
  induction text generalizing position with
  | nil => simp
  | cons c rest ih =>
      have hStep : (position.after c).offset = position.offset + 1 := by
        unfold Position.after
        split <;> rfl
      rw [List.foldl_cons, ih, hStep, List.length_cons]
      omega

end Position

namespace Text

/-- The point after a beginning of the text is reached character by character. -/
theorem positionAt_byteLength (before after : List Char) :
    positionAt (before ++ after) (byteLength before) =
      before.foldl Position.after Position.origin := by
  have h := Position.advance_append Position.origin before after 0
  rwa [Position.advance_zero] at h

theorem positionAt_offset (before after : List Char) :
    (positionAt (before ++ after) (byteLength before)).offset = before.length := by
  rw [positionAt_byteLength, Position.foldl_after_offset]
  simp [Position.origin]

/-- Different boundaries have different offsets in characters. -/
theorem boundary_unique {text : List Char} {first second : Nat} (hFirst : IsBoundary text first)
    (hSecond : IsBoundary text second)
    (h : (positionAt text first).offset = (positionAt text second).offset) : first = second := by
  obtain ⟨before, after, hText, rfl⟩ := hFirst
  obtain ⟨before', after', hText', rfl⟩ := hSecond
  have hLength : before.length = before'.length := by
    have hOffset := h
    rw [hText, positionAt_offset, ← hText, hText', positionAt_offset] at hOffset
    exact_mod_cast hOffset
  rw [(List.append_inj (hText.symm.trans hText') hLength).1]

end Text

end ComponentQueries

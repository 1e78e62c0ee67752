import ComponentQueries.Proofs.Text.Boundaries
import Mathlib.Data.List.DropRight
import Mathlib.Data.List.Induction

/-! The points of a text. A point is given by the beginning of the text before it, or by a
line and a column of the text, and every offset in bytes leads to one. -/
namespace ComponentQueries

namespace Text

/-- The characters behind the last line feed, or all of them if there is none. -/
def lastLine (text : List Char) : List Char :=
  text.rtakeWhile (· ≠ '\n')

@[simp] theorem lastLine_nil : lastLine [] = [] := rfl

theorem lastLine_concat (text : List Char) (c : Char) :
    lastLine (text ++ [c]) = if c = '\n' then [] else lastLine text ++ [c] := by
  by_cases hFeed : c = '\n'
  · simp [lastLine, hFeed]
  · simp [lastLine, hFeed]

/-- A line feed on the right hides all that stands on the left. -/
theorem lastLine_append (left right : List Char) :
    lastLine (left ++ right) =
      if '\n' ∈ right then lastLine right else lastLine left ++ right := by
  induction right using List.reverseRecOn with
  | nil => simp
  | append_singleton right c ih =>
      rw [← List.append_assoc, lastLine_concat, lastLine_concat, ih]
      by_cases hFeed : c = '\n'
      · simp [hFeed]
      · have hOther : '\n' ≠ c := Ne.symm hFeed
        by_cases hMem : '\n' ∈ right
        · simp [hFeed, hMem]
        · simp [hFeed, hOther, hMem]

theorem lastLine_eq_self {text : List Char} (h : '\n' ∉ text) : lastLine text = text := by
  simpa [h] using lastLine_append [] text

/-- Nothing before a line feed belongs to the last line. -/
theorem lastLine_append_lineFeed (left right : List Char) :
    lastLine (left ++ '\n' :: right) = lastLine right := by
  have hSplit : left ++ '\n' :: right = (left ++ ['\n']) ++ right := by simp
  rw [hSplit, lastLine_append, lastLine_concat]
  by_cases hMem : '\n' ∈ right
  · simp [hMem]
  · simp [hMem, lastLine_eq_self hMem]

/-- The point behind the beginning of a text: its line feeds count the lines, and what stands
behind the last of them counts the columns. -/
def pointAfter (before : List Char) : Position :=
  ⟨1 + before.count '\n', 1 + (lastLine before).length, before.length⟩

theorem pointAfter_concat (before : List Char) (c : Char) :
    pointAfter (before ++ [c]) = (pointAfter before).after c := by
  by_cases hFeed : c = '\n'
  · simp [pointAfter, lastLine_concat, Position.after, Position.nextLine, hFeed]
    omega
  · have hCount : [c].count '\n' = 0 := by simp [hFeed]
    simp [pointAfter, lastLine_concat, Position.after, Position.nextColumn, hFeed]
    omega

/-- Going over the characters one by one leads to the point behind them. -/
theorem foldl_after_eq_pointAfter (before : List Char) :
    before.foldl Position.after Position.origin = pointAfter before := by
  induction before using List.reverseRecOn with
  | nil => rfl
  | append_singleton before c ih => rw [List.foldl_concat, ih, pointAfter_concat]

/-- A point of the right part, seen from the beginning of the left. Only the first line of the
right part shares its line with what stands on the left. -/
theorem pointAfter_append (left right : List Char) :
    pointAfter (left ++ right) =
      ⟨(pointAfter left).line + (pointAfter right).line - 1,
        (if (pointAfter right).line = 1 then (pointAfter left).column - 1 else 0) +
          (pointAfter right).column,
        left.length + right.length⟩ := by
  by_cases hMem : '\n' ∈ right
  · have hCount : right.count '\n' ≠ 0 := fun h => List.count_eq_zero.mp h hMem
    have hLine : ¬(1 + (right.count '\n' : Int) = 1) := by omega
    simp only [pointAfter, lastLine_append, hMem, hLine, List.count_append, List.length_append,
      if_true, if_false, Position.mk.injEq]
    omega
  · have hCount : right.count '\n' = 0 := List.count_eq_zero.mpr hMem
    simp only [pointAfter, lastLine_append, lastLine_eq_self hMem, hMem, hCount, List.count_append,
      List.length_append, if_false, Position.mk.injEq]
    simp
    omega

theorem positionAt_eq_pointAfter (before after : List Char) :
    positionAt (before ++ after) (byteLength before) = pointAfter before := by
  rw [positionAt_byteLength, foldl_after_eq_pointAfter]

/-- Every offset in bytes, also one inside a character or past the end, leads to the point
behind some beginning of the text. -/
theorem exists_advance_eq (position : Position) (text : List Char) (bytes : Nat) :
    ∃ before after, text = before ++ after ∧
      position.advance text bytes = before.foldl Position.after position := by
  induction text generalizing position bytes with
  | nil => exact ⟨[], [], rfl, rfl⟩
  | cons c rest ih =>
      rw [Position.advance]
      split
      · exact ⟨[], c :: rest, rfl, rfl⟩
      · split
        · next hSome hPart =>
            have hFeed : c ≠ '\n' := by
              rintro rfl
              have hSize : ('\n').utf8Size = 1 := by decide
              omega
            exact ⟨[c], rest, rfl, by simp [Position.after, hFeed]⟩
        · obtain ⟨before, after, rfl, hPoint⟩ := ih (position.after c) (bytes - c.utf8Size)
          exact ⟨c :: before, after, rfl, hPoint⟩

theorem exists_positionAt_eq (text : List Char) (bytes : Nat) :
    ∃ before after, text = before ++ after ∧ positionAt text bytes = pointAfter before := by
  obtain ⟨before, after, hText, hPoint⟩ := exists_advance_eq Position.origin text bytes
  exact ⟨before, after, hText, by rw [positionAt, hPoint, foldl_after_eq_pointAfter]⟩

/-- A place of a text: a line that the text has, a column on that line or right behind its
end, and as offset the number of characters before them. -/
def IsPoint (text : List Char) (position : Position) : Prop :=
  ∃ above line below, lines text = above ++ line :: below ∧
    position.line = above.length + 1 ∧
    1 ≤ position.column ∧ position.column ≤ line.length + 1 ∧
    position.offset = sizeOfLines above + (position.column - 1)

theorem lines_ne_nil (text : List Char) : lines text ≠ [] := by
  cases text with
  | nil => simp [lines]
  | cons c rest =>
      rw [lines]
      split
      · simp
      · split <;> simp

theorem lines_cons_of_ne {c : Char} {rest line : List Char} {others : List (List Char)}
    (hFeed : c ≠ '\n') (hLines : lines rest = line :: others) :
    lines (c :: rest) = (c :: line) :: others := by
  rw [lines, if_neg hFeed, hLines]

theorem sizeOfLines_concat (above : List (List Char)) (line : List Char) :
    sizeOfLines (above ++ [line]) = sizeOfLines above + (line.length + 1) := by
  induction above with
  | nil => simp [sizeOfLines]
  | cons first others ih =>
      rw [List.cons_append, sizeOfLines, sizeOfLines, ih]
      omega

/-- The lines of a text in two parts: the last line of the left part goes on with the first
line of the right part. The induction takes characters off the end of the left part. -/
theorem exists_lines_append (before : List Char) :
    ∃ above, above.length = before.count '\n' ∧
      sizeOfLines above + (lastLine before).length = before.length ∧
      ∀ after line below, lines after = line :: below →
        lines (before ++ after) = above ++ (lastLine before ++ line) :: below := by
  induction before using List.reverseRecOn with
  | nil => exact ⟨[], rfl, rfl, fun after line below h => h⟩
  | append_singleton before c ih =>
      obtain ⟨above, hCount, hSize, hLines⟩ := ih
      by_cases hFeed : c = '\n'
      · refine ⟨above ++ [lastLine before], ?_, ?_, fun after line below h => ?_⟩
        · simp [hFeed, hCount]
        · rw [sizeOfLines_concat, lastLine_concat, if_pos hFeed, List.length_append]
          simp
          omega
        · have hNext : lines (c :: after) = [] :: line :: below := by
            rw [lines, if_pos hFeed, h]
          rw [List.append_assoc, List.singleton_append, hLines _ _ _ hNext, lastLine_concat,
            if_pos hFeed]
          simp
      · refine ⟨above, ?_, ?_, fun after line below h => ?_⟩
        · simp [hFeed, hCount]
        · rw [lastLine_concat, if_neg hFeed, List.length_append, List.length_append]
          omega
        · rw [List.append_assoc, List.singleton_append,
            hLines _ _ _ (lines_cons_of_ne hFeed h), lastLine_concat, if_neg hFeed]
          simp

/-- The first line of a text is all of it, or it ends at a line feed. -/
theorem eq_of_lines_cons {text line : List Char} {others : List (List Char)}
    (h : lines text = line :: others) :
    '\n' ∉ line ∧ (others = [] ∧ text = line ∨
      ∃ rest, text = line ++ '\n' :: rest ∧ lines rest = others) := by
  induction text generalizing line with
  | nil =>
      cases h
      simp
  | cons c rest ih =>
      by_cases hFeed : c = '\n'
      · rw [lines, if_pos hFeed] at h
        cases h
        exact ⟨by simp, Or.inr ⟨rest, by simp [hFeed], rfl⟩⟩
      · obtain ⟨first, more, hFirst⟩ := List.exists_cons_of_ne_nil (lines_ne_nil rest)
        rw [lines_cons_of_ne hFeed hFirst] at h
        cases h
        obtain ⟨hClean, hRest⟩ := ih hFirst
        refine ⟨by simp [hClean, Ne.symm hFeed], ?_⟩
        rcases hRest with ⟨rfl, rfl⟩ | ⟨after, rfl, hAfter⟩
        · exact Or.inl ⟨rfl, rfl⟩
        · exact Or.inr ⟨after, rfl, hAfter⟩

/-- A column of a line ends a beginning of the text. The induction is on the lines above. -/
theorem exists_before_of_lines {text line : List Char} {above below : List (List Char)}
    (h : lines text = above ++ line :: below) {count : Nat} (hCount : count ≤ line.length) :
    ∃ before after, text = before ++ after ∧ before.count '\n' = above.length ∧
      (lastLine before).length = count ∧ before.length = sizeOfLines above + count := by
  induction above generalizing text with
  | nil =>
      obtain ⟨hClean, hRest⟩ := eq_of_lines_cons h
      have hTaken : '\n' ∉ line.take count := fun hMem => hClean (List.mem_of_mem_take hMem)
      have hPrefix : ∃ rest, text = line ++ rest := by
        rcases hRest with ⟨-, rfl⟩ | ⟨rest, rfl, -⟩
        · exact ⟨[], (List.append_nil _).symm⟩
        · exact ⟨_, rfl⟩
      obtain ⟨rest, rfl⟩ := hPrefix
      refine ⟨line.take count, line.drop count ++ rest, ?_, ?_, ?_, ?_⟩
      · rw [← List.append_assoc, List.take_append_drop]
      · exact List.count_eq_zero.mpr hTaken
      · simp [lastLine_eq_self hTaken, hCount]
      · simp [sizeOfLines, hCount]
  | cons first others ih =>
      obtain ⟨hClean, ⟨hNone, -⟩ | ⟨rest, rfl, hRest⟩⟩ := eq_of_lines_cons h
      · simp at hNone
      · obtain ⟨before, after, rfl, hFeeds, hLast, hLength⟩ := ih hRest
        refine ⟨first ++ '\n' :: before, after, by simp, ?_, ?_, ?_⟩
        · simp [List.count_eq_zero.mpr hClean, hFeeds]
        · rw [lastLine_append_lineFeed, hLast]
        · simp [sizeOfLines, hLength]
          omega

/-- The places of a text are the points behind its beginnings. -/
theorem isPoint_iff {text : List Char} {position : Position} :
    IsPoint text position ↔
      ∃ before after, text = before ++ after ∧ position = pointAfter before := by
  constructor
  · rintro ⟨above, line, below, hLines, hLine, hFirst, hLast, hOffset⟩
    obtain ⟨count, hColumn⟩ := Int.eq_ofNat_of_zero_le (Int.sub_nonneg_of_le hFirst)
    obtain ⟨before, after, hText, hFeeds, hEnd, hLength⟩ :=
      exists_before_of_lines hLines (show count ≤ line.length by omega)
    refine ⟨before, after, hText, ?_⟩
    obtain ⟨lineNumber, column, offset⟩ := position
    simp only at hLine hColumn hOffset
    simp only [pointAfter, Position.mk.injEq]
    omega
  · rintro ⟨before, after, rfl, rfl⟩
    obtain ⟨line, below, hAfter⟩ := List.exists_cons_of_ne_nil (lines_ne_nil after)
    obtain ⟨above, hFeeds, hSize, hLines⟩ := exists_lines_append before
    refine ⟨above, lastLine before ++ line, below, hLines after line below hAfter, ?_⟩
    simp only [pointAfter, List.length_append]
    omega

theorem isPoint_pointAfter (before after : List Char) :
    IsPoint (before ++ after) (pointAfter before) :=
  isPoint_iff.mpr ⟨before, after, rfl, rfl⟩

/-- The offset of a place can be computed from its line and column. -/
theorem IsPoint.offsetOf_eq {text : List Char} {position : Position} (h : IsPoint text position) :
    offsetOf text position.line position.column = position.offset := by
  obtain ⟨above, line, below, hLines, hLine, -, -, hOffset⟩ := h
  have hAbove : (position.line - 1).toNat = above.length := by omega
  rw [offsetOf, hLines, hAbove, List.take_left' rfl, hOffset]
  omega

end Text

end ComponentQueries

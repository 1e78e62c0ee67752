import ComponentQueries.Proofs.Text.Points

/-! Points of a text by tables of its lines. One table has the offsets at which lines begin in
bytes, another has them in characters. A binary search in the first finds the line of an offset,
and the bytes from there on spell the columns. -/
namespace ComponentQueries.Text

section Tables

variable (size : List Char → Nat)

/-- The extent of lines that have a line feed each. -/
def extent : List (List Char) → Nat
  | [] => 0
  | line :: others => size line + 1 + extent others

/-- The offsets at which lines begin. -/
def startsFrom (start : Nat) : List (List Char) → List Nat
  | [] => []
  | line :: others => start :: startsFrom (start + size line + 1) others

@[simp] theorem length_startsFrom (start : Nat) (lines : List (List Char)) :
    (startsFrom size start lines).length = lines.length := by
  induction lines generalizing start with
  | nil => rfl
  | cons line others ih => simp [startsFrom, ih]

/-- A line begins behind the extent of the lines above it. -/
theorem getD_startsFrom (start : Nat) {lines : List (List Char)} {index : Nat}
    (h : index < lines.length) :
    (startsFrom size start lines).getD index 0 = start + extent size (lines.take index) := by
  induction lines generalizing start index with
  | nil => cases h
  | cons line others ih =>
      cases index with
      | zero => simp [startsFrom, extent]
      | succ index =>
          have hRest : index < others.length := by simpa using h
          rw [startsFrom, List.getD_cons_succ, ih _ hRest, List.take_succ_cons, extent]
          omega

theorem extent_append (above below : List (List Char)) :
    extent size (above ++ below) = extent size above + extent size below := by
  induction above with
  | nil => simp [extent]
  | cons line others ih =>
      rw [List.cons_append, extent, extent, ih]
      omega

theorem getD_startsFrom_mono {lines : List (List Char)} {first second : Nat}
    (hLe : first ≤ second) (hSecond : second < lines.length) :
    (startsFrom size 0 lines).getD first 0 ≤ (startsFrom size 0 lines).getD second 0 := by
  have hSplit := (List.take_append_drop first (lines.take second)).symm
  rw [List.take_take, Nat.min_eq_left hLe] at hSplit
  rw [getD_startsFrom size 0 (by omega), getD_startsFrom size 0 hSecond, hSplit, extent_append]
  omega

end Tables

/-- The number of entries that are not beyond an offset, between `low` and `high`, if the entries
increase. The search looks at the entry in the middle. -/
def bisectRight (starts : List Nat) (offset low high : Nat) : Nat :=
  if low < high then
    let middle := (low + high) / 2
    if offset < starts.getD middle 0 then bisectRight starts offset low middle
    else bisectRight starts offset (middle + 1) high
  else low
termination_by high - low

/-- The entries below `low` are not beyond an offset, and those from `high` on are. -/
structure Separates (starts : List Nat) (offset low high : Nat) : Prop where
  bounded : low ≤ high ∧ high ≤ starts.length
  below : ∀ index < low, starts.getD index 0 ≤ offset
  above : ∀ index, high ≤ index → index < starts.length → offset < starts.getD index 0

/-- A step of the search keeps what it knows about both sides, so that at its end the two sides
meet. -/
theorem Separates.meet {starts : List Nat} {offset low high : Nat}
    (increasing : ∀ first second, first ≤ second → second < starts.length →
      starts.getD first 0 ≤ starts.getD second 0)
    (h : Separates starts offset low high) :
    Separates starts offset (bisectRight starts offset low high)
      (bisectRight starts offset low high) := by
  fun_induction bisectRight starts offset low high with
  | case1 low high hLow middle hBeyond ih =>
      obtain ⟨⟨hLe, hLength⟩, hBelow, hAbove⟩ := h
      refine ih ⟨⟨by omega, by omega⟩, hBelow, fun index hIndex hEnd => ?_⟩
      exact Nat.lt_of_lt_of_le hBeyond (increasing middle index hIndex hEnd)
  | case2 low high hLow middle hWithin ih =>
      obtain ⟨⟨hLe, hLength⟩, hBelow, hAbove⟩ := h
      refine ih ⟨⟨by omega, hLength⟩, fun index hIndex => ?_, hAbove⟩
      have := increasing index middle (by omega) (by omega)
      omega
  | case3 low high hDone =>
      obtain ⟨⟨hLe, hLength⟩, hBelow, hAbove⟩ := h
      exact ⟨⟨Nat.le_refl _, by omega⟩, hBelow, fun index hIndex => hAbove index (by omega)⟩

def byteStarts (text : List Char) : List Nat :=
  startsFrom byteLength 0 (lines text)

def charStarts (text : List Char) : List Nat :=
  startsFrom List.length 0 (lines text)

/-- The line of an offset in bytes, counted from zero. -/
def lineIndex (text : List Char) (bytes : Nat) : Nat :=
  bisectRight (byteStarts text) bytes 0 (byteStarts text).length - 1

/-- The point at an offset in bytes, looked up in the tables. -/
def tablePosition (text : List Char) (bytes : Nat) : Position :=
  let index := lineIndex text bytes
  let column := (slice text ((byteStarts text).getD index 0) bytes).length
  ⟨index + 1, column + 1, (charStarts text).getD index 0 + column⟩

/-- The search finds the last line that begins at or before the offset. -/
theorem exists_line_of_offset (text : List Char) (bytes : Nat) :
    ∃ above line below, lines text = above ++ line :: below ∧
      lineIndex text bytes = above.length ∧
      extent byteLength above ≤ bytes ∧
      (below ≠ [] → bytes < extent byteLength above + byteLength line + 1) := by
  have hLength : (byteStarts text).length = (lines text).length := length_startsFrom _ _ _
  have hPositive : 0 < (lines text).length := List.length_pos_iff.mpr (lines_ne_nil text)
  have hStart : Separates (byteStarts text) bytes 0 (byteStarts text).length :=
    ⟨⟨Nat.zero_le _, Nat.le_refl _⟩, fun index hIndex => absurd hIndex (Nat.not_lt_zero _),
      fun index hIndex hEnd => absurd hEnd (Nat.not_lt.mpr hIndex)⟩
  have hIncreasing : ∀ first second, first ≤ second → second < (byteStarts text).length →
      (byteStarts text).getD first 0 ≤ (byteStarts text).getD second 0 :=
    fun first second hLe hSecond => getD_startsFrom_mono byteLength hLe (hLength ▸ hSecond)
  obtain ⟨⟨-, hEnd⟩, hBelow, hAbove⟩ := hStart.meet hIncreasing
  rw [lineIndex]
  generalize bisectRight (byteStarts text) bytes 0 (byteStarts text).length = found
    at hEnd hBelow hAbove ⊢
  -- The first line begins at zero, so the search never ends on the left of it.
  have hFound : 0 < found := by
    rw [Nat.pos_iff_ne_zero]
    rintro rfl
    have hFirst := hAbove 0 (Nat.le_refl _) (by omega)
    rw [byteStarts, getD_startsFrom byteLength 0 hPositive] at hFirst
    simp only [List.take_zero, extent] at hFirst
    omega
  have hIndex : found - 1 < (lines text).length := by omega
  refine ⟨(lines text).take (found - 1), (lines text)[found - 1], (lines text).drop found,
    ?_, ?_, ?_, fun hMore => ?_⟩
  · have hDrop := List.drop_eq_getElem_cons hIndex
    rw [Nat.sub_add_cancel hFound] at hDrop
    rw [← hDrop, List.take_append_drop]
  · rw [List.length_take]
    omega
  · have hLast := hBelow (found - 1) (by omega)
    rw [byteStarts, getD_startsFrom byteLength 0 hIndex] at hLast
    omega
  · have hNext : found < (lines text).length := by
      rw [← Nat.not_le]
      exact fun hNone => hMore (List.drop_eq_nil_of_le hNone)
    have hBeyond := hAbove found (Nat.le_refl _) (by omega)
    have hTake : (lines text).take found =
        (lines text).take (found - 1) ++ [(lines text)[found - 1]] := by
      have hSucc := List.take_succ_eq_append_getElem hIndex
      rwa [Nat.sub_add_cancel hFound] at hSucc
    rw [byteStarts, getD_startsFrom byteLength 0 hNext, hTake, extent_append] at hBeyond
    simp only [extent] at hBeyond
    omega

/-- The lines above a line, with their line feeds, are a beginning of the text. -/
theorem exists_above_of_lines {text line : List Char} {above below : List (List Char)}
    (h : lines text = above ++ line :: below) :
    ∃ before rest, text = before ++ rest ∧ lines rest = line :: below ∧
      before.count '\n' = above.length ∧ lastLine before = [] ∧
      before.length = extent List.length above ∧ byteLength before = extent byteLength above := by
  induction above generalizing text with
  | nil => exact ⟨[], text, rfl, h, rfl, rfl, rfl, rfl⟩
  | cons first others ih =>
      obtain ⟨hClean, ⟨hNone, -⟩ | ⟨rest, rfl, hRest⟩⟩ := eq_of_lines_cons h
      · simp at hNone
      · obtain ⟨before, after, rfl, hLines, hFeeds, hLast, hLength, hBytes⟩ := ih hRest
        have hFeed : ('\n' : Char).utf8Size = 1 := by decide
        refine ⟨first ++ '\n' :: before, after, by simp, hLines, ?_, ?_, ?_, ?_⟩
        · simp [List.count_eq_zero.mpr hClean, hFeeds]
        · rw [lastLine_append_lineFeed, hLast]
        · rw [List.length_append, List.length_cons, hLength, extent]
          omega
        · rw [byteLength_append, byteLength_cons, hBytes, hFeed, extent]
          omega

/-- A slice holds characters of its text, and replacements. -/
theorem mem_of_mem_sliceFrom {c : Char} {offset start stop : Nat} {text : List Char}
    (h : c ∈ sliceFrom offset start stop text) : c ∈ text ∨ c = replacement := by
  induction text generalizing offset with
  | nil => cases h
  | cons first rest ih =>
      rw [sliceFrom, List.mem_append] at h
      rcases h with hCut | hRest
      · unfold cut at hCut
        grind
      · exact (ih hRest).imp_left (List.mem_cons_of_mem _)

/-- Whatever lies before the text may be left out of a slice. -/
theorem sliceFrom_of_le {offset start : Nat} (stop : Nat) (hStart : start ≤ offset)
    (text : List Char) : sliceFrom offset start stop text = sliceFrom offset 0 stop text := by
  induction text generalizing offset with
  | nil => rfl
  | cons c rest ih =>
      have hSize := c.utf8Size_pos
      have hCut : cut c offset start stop = cut c offset 0 stop := by
        unfold cut
        simp only [hStart, Nat.zero_le, if_true]
        have hLeft : ¬offset + c.utf8Size ≤ start := by omega
        have hZero : ¬offset + c.utf8Size ≤ 0 := by omega
        simp only [hLeft, hZero, or_false]
      rw [sliceFrom, sliceFrom, hCut, ih (by omega)]

/-- The bytes of a line spell no line feed, as far as the next line has not begun. -/
theorem lineFeed_not_mem_sliceFrom {rest line : List Char} {below : List (List Char)}
    (hLines : lines rest = line :: below) {offset start stop : Nat}
    (hStop : below ≠ [] → stop < offset + byteLength line + 1) :
    '\n' ∉ sliceFrom offset start stop rest := by
  obtain ⟨hClean, hRest⟩ := eq_of_lines_cons hLines
  have hLine : '\n' ∉ sliceFrom offset start stop line := by
    intro hMem
    rcases mem_of_mem_sliceFrom hMem with hOwn | hReplaced
    · exact hClean hOwn
    · exact absurd hReplaced (by decide)
  rcases hRest with ⟨-, rfl⟩ | ⟨more, rfl, hMore⟩
  · exact hLine
  · have hEnd := hStop (hMore ▸ lines_ne_nil more)
    rw [sliceFrom_append, sliceFrom_eq_nil ('\n' :: more) (Or.inl (by omega)), List.append_nil]
    exact hLine

/-- The tables lead to the point behind what the bytes before an offset spell. -/
theorem tablePosition_eq_pointAfter (text : List Char) (bytes : Nat) :
    tablePosition text bytes = pointAfter (slice text 0 bytes) := by
  obtain ⟨above, line, below, hLines, hIndex, hStart, hStop⟩ := exists_line_of_offset text bytes
  obtain ⟨before, rest, rfl, hRest, hFeeds, hLast, hLength, hBytes⟩ :=
    exists_above_of_lines hLines
  have hAbove : above.length < (lines (before ++ rest)).length := by simp [hLines]
  have hTake : (lines (before ++ rest)).take above.length = above := by simp [hLines]
  have hTail : slice (before ++ rest) (byteLength before) bytes =
      sliceFrom (byteLength before) 0 bytes rest := by
    rw [slice, sliceFrom_append, sliceFrom_eq_nil before (Or.inr (by omega)), List.nil_append,
      Nat.zero_add, sliceFrom_of_le bytes (Nat.le_refl _)]
  have hSlice : slice (before ++ rest) 0 bytes =
      before ++ slice (before ++ rest) (byteLength before) bytes := by
    rw [hTail, slice, sliceFrom_append, sliceFrom_eq_self before (Nat.le_refl _) (by omega),
      Nat.zero_add]
  have hClean : '\n' ∉ slice (before ++ rest) (byteLength before) bytes := by
    rw [hTail]
    exact lineFeed_not_mem_sliceFrom hRest fun hMore => by
      have := hStop hMore
      omega
  rw [tablePosition, hIndex, byteStarts, charStarts, getD_startsFrom byteLength 0 hAbove,
    getD_startsFrom List.length 0 hAbove, hTake, Nat.zero_add, Nat.zero_add, ← hBytes, ← hLength,
    hSlice, pointAfter, lastLine_append, if_neg hClean, hLast, List.nil_append, List.count_append,
    List.count_eq_zero.mpr hClean, hFeeds, List.length_append]
  simp only [Position.mk.injEq]
  omega

end ComponentQueries.Text

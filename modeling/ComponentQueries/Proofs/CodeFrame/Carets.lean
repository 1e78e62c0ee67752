import ComponentQueries.Proofs.CodeFrame.Layout

/-! The carets of a frame. Under each line that a range touches, they stand under the characters
of the line that belong to the range. -/
namespace ComponentQueries

namespace Text

/-- The number of characters before a line. -/
def lineStart (text : List Char) (number : Nat) : Nat :=
  sizeOfLines ((lines text).take (number - 1))

theorem offsetOf_eq_lineStart_add (text : List Char) (number index : Nat) :
    offsetOf text number (index + 1) = lineStart text number + index := by
  have hIndex : ((number : Int) - 1).toNat = number - 1 := by omega
  rw [offsetOf, lineStart, hIndex]
  omega

theorem lineStart_succ {text : List Char} {number : Nat} (hFirst : 1 ≤ number)
    (hLast : number ≤ (lines text).length) :
    lineStart text (number + 1) = lineStart text number + ((lineAt text number).length + 1) := by
  obtain ⟨index, rfl⟩ := Nat.exists_eq_add_of_le' hFirst
  have hIndex : index < (lines text).length := by omega
  have hLine : lineAt text (index + 1) = (lines text)[index] := by
    simp [lineAt, hIndex]
  rw [lineStart, lineStart, hLine, Nat.add_sub_cancel, Nat.add_sub_cancel,
    List.take_succ_eq_append_getElem hIndex, sizeOfLines_concat]

/-- All of a line, with its line feed, stands before each later line. -/
theorem lineStart_of_lt {text : List Char} {upper lower : Nat} (hFirst : 1 ≤ upper)
    (hLt : upper < lower) (hLast : lower ≤ (lines text).length) :
    lineStart text upper + (lineAt text upper).length < lineStart text lower := by
  induction lower, hLt using Nat.le_induction with
  | base =>
      rw [lineStart_succ hFirst (by omega)]
      omega
  | succ lower hLt ih =>
      have hUpper := ih (by omega)
      rw [lineStart_succ (by omega) (by omega)]
      omega

/-- A point lies on a line that the text has. -/
theorem IsPoint.exists_line {text : List Char} {position : Position} (h : IsPoint text position) :
    ∃ number : Nat, position.line = number ∧ 1 ≤ number ∧ number ≤ (lines text).length ∧
      1 ≤ position.column ∧ position.column ≤ (lineAt text number).length + 1 ∧
      position.offset = lineStart text number + (position.column - 1) := by
  obtain ⟨above, line, below, hLines, hLine, hFirst, hLast, hOffset⟩ := h
  refine ⟨above.length + 1, hLine, by omega, ?_, hFirst, ?_, ?_⟩
  · simp [hLines]
  · simpa [lineAt, hLines] using hLast
  · simpa [lineStart, hLines] using hOffset

/-- The point of a text behind its first characters. -/
def pointOf (text : List Char) (count : Nat) : Position :=
  positionAt text (byteLength (text.take count))

theorem pointOf_eq (text : List Char) (count : Nat) :
    pointOf text count = pointAfter (text.take count) := by
  have h := positionAt_eq_pointAfter (text.take count) (text.drop count)
  rwa [List.take_append_drop] at h

theorem isPoint_pointOf (text : List Char) (count : Nat) : IsPoint text (pointOf text count) := by
  have h := isPoint_pointAfter (text.take count) (text.drop count)
  rwa [List.take_append_drop, ← pointOf_eq] at h

theorem pointOf_offset {text : List Char} {count : Nat} (h : count ≤ text.length) :
    (pointOf text count).offset = count := by
  rw [pointOf_eq, pointAfter, List.length_take, Nat.min_eq_left h]

/-- The line and the column behind the first characters of a text. -/
theorem exists_line_pointOf {text : List Char} {count : Nat} (h : count ≤ text.length) :
    ∃ number : Nat, (pointOf text count).line = number ∧ 1 ≤ number ∧
      number ≤ (lines text).length ∧ 1 ≤ (pointOf text count).column ∧
      (pointOf text count).column ≤ (lineAt text number).length + 1 ∧
      (count : Int) = lineStart text number + ((pointOf text count).column - 1) := by
  have hPoint := (isPoint_pointOf text count).exists_line
  rwa [pointOf_offset h] at hPoint

end Text

namespace CodeFrame

theorem getElem?_carets_iff {blanks carets index : Nat} :
    (List.replicate blanks ' ' ++ List.replicate carets '^')[index]? = some '^' ↔
      blanks ≤ index ∧ index < blanks + carets := by
  have hChar : ' ' ≠ '^' := by decide
  by_cases hBlank : index < blanks
  · have hNot : ¬(blanks ≤ index ∧ index < blanks + carets) := by omega
    rw [List.getElem?_append_left (by simpa using hBlank), List.getElem?_replicate, if_pos hBlank]
    simp only [hNot, Option.some.injEq, hChar]
  · have hCaret : index - blanks < carets ↔ blanks ≤ index ∧ index < blanks + carets := by omega
    rw [List.getElem?_append_right (by simpa using hBlank), List.length_replicate,
      List.getElem?_replicate, ← hCaret]
    split
    · next hInside => simp only [hInside]
    · next hOutside => simp only [hOutside, reduceCtorEq]

/-- An interval of columns, or its first column if it is empty. -/
theorem mem_interval_or_first {inside : Nat → Prop} {first stop : Nat}
    (h : ∀ index, inside index ↔ first ≤ index ∧ index < stop) (index : Nat) :
    first ≤ index ∧ index < first + max (stop - first) 1 ↔
      inside index ∨ (∀ other, ¬inside other) ∧ index = first := by
  by_cases hEmpty : stop ≤ first
  · have hNone : ∀ other, ¬inside other := fun other hOther => by
      have := (h other).mp hOther
      omega
    simp only [hNone, not_false_eq_true, implies_true, true_and, false_or]
    omega
  · have hFirst : inside first := (h first).mpr (by omega)
    rw [or_iff_left fun hNone => hNone.1 first hFirst, h]
    omega

/-- A character of a line, counted from zero, that lies between two offsets. -/
def InRange (text : List Char) (begins ends : Nat) (number index : Nat) : Prop :=
  index < (Text.lineAt text number).length ∧
    begins ≤ Text.offsetOf text number (index + 1) ∧ Text.offsetOf text number (index + 1) < ends

/-- How the ends of a range lie with respect to a line that it touches. -/
structure Touches (text : List Char) (begins ends : Nat) (start stop : Position) (number : Nat) :
    Prop where
  first : start.line ≤ number
  last : number ≤ stop.line
  startColumn : 1 ≤ start.column
  stopColumn : 1 ≤ stop.column
  onFirst : start.line = number → (begins : Int) = Text.lineStart text number + (start.column - 1)
  onLater : start.line < number → begins < Text.lineStart text number
  onLast : stop.line = number → (ends : Int) = Text.lineStart text number + (stop.column - 1) ∧
    stop.column ≤ (Text.lineAt text number).length + 1
  onEarlier : number < stop.line →
    Text.lineStart text number + (Text.lineAt text number).length < ends

variable {text : List Char} {begins ends number : Nat}

theorem touches_of_isMarked (hOrder : begins ≤ ends) (hEnd : ends ≤ text.length)
    (hMarked : IsMarked (Text.pointOf text begins) (some (Text.pointOf text ends)) number) :
    Touches text begins ends (Text.pointOf text begins) (Text.pointOf text ends) number := by
  obtain ⟨upper, hUpper, hUpperFirst, hUpperLast, hColumn, hColumnLast, hBegins⟩ :=
    Text.exists_line_pointOf (hOrder.trans hEnd)
  obtain ⟨lower, hLower, hLowerFirst, hLowerLast, hStop, hStopLast, hEnds⟩ :=
    Text.exists_line_pointOf hEnd
  obtain ⟨hFrom, hTo⟩ := hMarked
  simp only [lastMarked] at hTo
  rw [hUpper] at hFrom
  rw [hLower] at hTo
  have hShown : number ≤ (Text.lines text).length := (Int.ofNat_le.mp hTo).trans hLowerLast
  refine ⟨by omega, by omega, hColumn, hStop, ?_, ?_, ?_, ?_⟩
  · intro hLine
    obtain rfl : upper = number := by omega
    exact hBegins
  · intro hLine
    have hBefore := Text.lineStart_of_lt hUpperFirst (show upper < number by omega) hShown
    omega
  · intro hLine
    obtain rfl : lower = number := by omega
    exact ⟨hEnds, hStopLast⟩
  · intro hLine
    have hBefore := Text.lineStart_of_lt (show 1 ≤ number by omega) (by omega) hLowerLast
    omega

/-- What is underlined on a line is an interval of columns, and its characters are those between
the two ends of the range. The four cases are those of a range on one line, and of the first, the
last and any other line of a range on several lines. -/
theorem Touches.exists_interval {start stop : Position}
    (h : Touches text begins ends start stop number) :
    ∃ first behind : Nat,
      span? number (Text.lineAt text number).length start (some stop) =
        some ⟨first + 1, max ((behind : Int) - first) 1⟩ ∧
      (∀ index, InRange text begins ends number index ↔ first ≤ index ∧ index < behind) ∧
      (first : Int) + 1 = if (number : Int) = start.line then start.column else 1 := by
  obtain ⟨hFirst, hLast, hStart, hStop, hOnFirst, hOnLater, hOnLast, hOnEarlier⟩ := h
  have hTouched : ¬((number : Int) < start.line ∨ lastMarked start (some stop) < number) := by
    simp only [lastMarked]
    omega
  simp only [InRange, Text.offsetOf_eq_lineStart_add]
  rw [span?, if_neg hTouched]
  by_cases hSingle : start.line = stop.line
  · refine ⟨(start.column - 1).toNat, (stop.column - 1).toNat, ?_, ?_, ?_⟩
    · rw [if_pos hSingle]
      simp
      omega
    · omega
    · rw [if_pos (by omega)]
      omega
  · rw [if_neg hSingle]
    by_cases hUpper : (number : Int) = start.line
    · refine ⟨(start.column - 1).toNat, (Text.lineAt text number).length, ?_, ?_, ?_⟩
      · rw [if_pos hUpper]
        simp
        omega
      · omega
      · rw [if_pos hUpper]
        omega
    · rw [if_neg hUpper, if_neg hUpper]
      by_cases hLower : (number : Int) = stop.line
      · refine ⟨0, (stop.column - 1).toNat, ?_, ?_, rfl⟩
        · rw [if_pos hLower]
          simp
          omega
        · omega
      · refine ⟨0, (Text.lineAt text number).length, ?_, ?_, rfl⟩
        · rw [if_neg hLower]
          simp
        · omega

/-- The carets of a line stand in the columns of its characters that belong to the range. If
there are none, one caret stands in the column where the range begins, or in the first one. -/
theorem Touches.getElem?_caretsUnder {start stop : Position}
    (h : Touches text begins ends start stop number) (index : Nat) :
    (caretsUnder text start (some stop) number)[index]? = some '^' ↔
      InRange text begins ends number index ∨
        (∀ other, ¬InRange text begins ends number other) ∧
          (index : Int) + 1 = if (number : Int) = start.line then start.column else 1 := by
  obtain ⟨first, behind, hSpan, hInside, hFirst⟩ := h.exists_interval
  have hCarets : caretsUnder text start (some stop) number =
      List.replicate first ' ' ++ List.replicate (max (behind - first) 1) '^' := by
    have hRow : (rowAt text start (some stop) number).span =
        some ⟨first + 1, max ((behind : Int) - first) 1⟩ := hSpan
    have hBlanks : ((first : Int) + 1 - 1).toNat = first := by omega
    have hCount : (max ((behind : Int) - first) 1).toNat = max (behind - first) 1 := by omega
    rw [caretsUnder, hRow, Option.map_some, Option.getD_some, underline, hBlanks, hCount]
  rw [hCarets, getElem?_carets_iff, mem_interval_or_first hInside, ← hFirst]
  have hColumn : index = first ↔ (index : Int) + 1 = first + 1 := by omega
  rw [hColumn]

/-- The column of a row at which its line begins, counted from zero. -/
def lineColumn (width : Nat) : Nat := width + 5

/-- A row of carets has its carets behind the bar. -/
theorem getElem?_printedNote (width : Nat) (content : List Char) (column : Nat) :
    (printedNote width content)[column]? = some '^' ↔
      ∃ index, column = lineColumn width + index ∧ content[index]? = some '^' := by
  let head := List.replicate (2 + width) ' ' ++ [' ', '|', ' ']
  have hPrinted : printedNote width content = head ++ content := by simp [printedNote, head]
  have hLength : head.length = lineColumn width := by
    simp [head, lineColumn]
    omega
  have hHead : '^' ∉ head := by simp [head, List.mem_replicate]
  rw [hPrinted]
  constructor
  · intro h
    by_cases hColumn : column < lineColumn width
    · rw [List.getElem?_append_left (by omega)] at h
      exact absurd (List.mem_of_getElem? h) hHead
    · rw [List.getElem?_append_right (by omega), hLength] at h
      exact ⟨column - lineColumn width, by omega, h⟩
  · rintro ⟨index, rfl, h⟩
    rw [List.getElem?_append_right (by omega), hLength, Nat.add_sub_cancel_left]
    exact h

/-- A line stands in its row from the same column on, if its number fits. -/
theorem getElem?_printedLine {width : Nat} (isMarked : Bool) (content : List Char)
    (hWidth : (Nat.toDigits 10 number).length ≤ width) (index : Nat) :
    (printedLine width isMarked number content)[lineColumn width + index]? = content[index]? := by
  let head := (if isMarked then ['>', ' '] else [' ', ' ']) ++
    ((Nat.toDigits 10 number).leftpad width ' ' ++ [' ', '|'])
  have hPrinted : printedLine width isMarked number content =
      head ++ if content = [] then [] else ' ' :: content := by
    simp [printedLine, head]
  have hLength : head.length + 1 = lineColumn width := by
    have hNumber : ((Nat.toDigits 10 number).leftpad width ' ').length = width := by
      rw [List.length_leftpad, Nat.max_eq_left hWidth]
    cases isMarked <;> simp only [head, List.length_append, hNumber, lineColumn] <;> simp <;> omega
  have hColumn : lineColumn width + index - head.length = index + 1 := by omega
  rw [hPrinted, List.getElem?_append_right (by omega), hColumn]
  by_cases hEmpty : content = []
  · simp [hEmpty]
  · simp [hEmpty]

theorem length_toDigits_le_numberWidth {start : Position} {stop : Option Position}
    (h : number ∈ shownNumbers text start stop) :
    (Nat.toDigits 10 number).length ≤ numberWidth text start stop := by
  have hShown := ((mem_shownNumbers text start stop).mp h).2
  have hLast : (lastShown text start stop).toNat < 10 ^ numberWidth text start stop :=
    (Nat.length_toDigits_le_iff (by decide) Nat.length_toDigits_pos).mp (Nat.le_refl _)
  apply (Nat.length_toDigits_le_iff (by decide) Nat.length_toDigits_pos).mpr
  exact Nat.lt_of_le_of_lt (by omega) hLast

/-- A later offset lies on no earlier line. -/
theorem pointOf_line_le (hOrder : begins ≤ ends) (hEnd : ends ≤ text.length) :
    (Text.pointOf text begins).line ≤ (Text.pointOf text ends).line := by
  obtain ⟨upper, hUpper, hUpperFirst, hUpperLast, hColumn, -, hBegins⟩ :=
    Text.exists_line_pointOf (hOrder.trans hEnd)
  obtain ⟨lower, hLower, hLowerFirst, -, -, hStopLast, hEnds⟩ := Text.exists_line_pointOf hEnd
  by_contra hNot
  have hBefore := Text.lineStart_of_lt hLowerFirst (show lower < upper by omega) hUpperLast
  omega

/-- Carets underline exactly the range between two offsets of a text. Each line that the range
touches is shown and followed by one row of carets, and no other line is. Seen from the column
in which the line above begins, the carets stand under the characters of the line that lie
between the offsets. Where there are none, there is one caret: in the column where the range
begins on its first line, and in the first column of any other line. -/
theorem carets_under_range (hText : Text.Printable text) (hOrder : begins ≤ ends)
    (hEnd : ends ≤ text.length) :
    let start := Text.positionAt text (Text.byteLength (text.take begins))
    let stop := Text.positionAt text (Text.byteLength (text.take ends))
    let numbers := shownNumbers text start (some stop)
    let width := numberWidth text start (some stop)
    ∃ caretRow : Nat → List Char,
      (Text.lines (render text start (some stop) none false).toList =
        numbers.flatMap fun (number : Nat) =>
          printedLine width (IsMarked start (some stop) number) number (Text.lineAt text number) ::
            if IsMarked start (some stop) number then [caretRow number] else []) ∧
      ∀ number : Nat, start.line ≤ number → number ≤ stop.line →
        number ∈ numbers ∧
        (∀ index, (printedLine width true number
            (Text.lineAt text number))[lineColumn width + index]? =
          (Text.lineAt text number)[index]?) ∧
        ∀ column, (caretRow number)[column]? = some '^' ↔
          ∃ index, column = lineColumn width + index ∧
            (InRange text begins ends number index ∨
              (∀ other, ¬InRange text begins ends number other) ∧
                (index : Int) + 1 = if (number : Int) = start.line then start.column else 1) := by
  intro start stop numbers width
  have hOrdered : start.line ≤ stop.line := pointOf_line_le hOrder hEnd
  obtain ⟨upper, hUpper, hUpperFirst, -⟩ := Text.exists_line_pointOf (hOrder.trans hEnd)
  obtain ⟨lower, hLower, -, hLowerLast, -⟩ := Text.exists_line_pointOf hEnd
  have hFirst : 1 ≤ start.line := by
    change start.line = upper at hUpper
    omega
  have hLast : lastMarked start (some stop) ≤ (Text.lines text).length := by
    change stop.line = lower at hLower
    simp only [lastMarked]
    omega
  have hRows : Text.lines (render text start (some stop) none false).toList = _ :=
    lines_render hText hFirst hOrdered hLast (by simp)
  simp only [shownNote, ite_self, List.append_nil] at hRows
  refine ⟨fun number => printedNote width (caretsUnder text start (some stop) number), hRows, ?_⟩
  intro number hFrom hTo
  have hShown : number ∈ numbers := by
    rw [mem_shownNumbers, firstShown, lastShown, linesAbove, linesBelow]
    simp only [lastMarked] at hLast ⊢
    omega
  have hTouches : Touches text begins ends start stop number :=
    touches_of_isMarked hOrder hEnd ⟨hFrom, hTo⟩
  refine ⟨hShown, getElem?_printedLine true _ (length_toDigits_le_numberWidth hShown), ?_⟩
  intro column
  rw [getElem?_printedNote]
  simp only [hTouches.getElem?_caretsUnder]

/-- A range from the end of one line over an empty line into a third one. The empty line has one
caret, in its first column. -/
theorem carets_under_range_emptyLine :
    let text := "ab\n\ncd".toList
    Text.Printable text ∧
      Text.positionAt text (Text.byteLength (text.take 2)) = ⟨1, 3, 2⟩ ∧
      Text.positionAt text (Text.byteLength (text.take 5)) = ⟨3, 2, 5⟩ ∧
      ∃ caretRow : Nat → List Char,
        Text.lines (render text ⟨1, 3, 2⟩ (some ⟨3, 2, 5⟩) none false).toList =
          ["> 1 | ab".toList, caretRow 1, "> 2 |".toList, caretRow 2, "> 3 | cd".toList,
            caretRow 3] ∧
        ∀ column, (caretRow 2)[column]? = some '^' ↔ column = 6 := by
  intro text
  have hText : Text.Printable text := by decide +kernel
  have hStart : Text.positionAt text (Text.byteLength (text.take 2)) = ⟨1, 3, 2⟩ := by
    decide +kernel
  have hStop : Text.positionAt text (Text.byteLength (text.take 5)) = ⟨3, 2, 5⟩ := by
    decide +kernel
  have hCarets := carets_under_range hText (show 2 ≤ 5 by decide) (by decide +kernel)
  have hNumbers : shownNumbers text ⟨1, 3, 2⟩ (some ⟨3, 2, 5⟩) = [1, 2, 3] := by decide +kernel
  have hWidth : numberWidth text ⟨1, 3, 2⟩ (some ⟨3, 2, 5⟩) = 1 := by decide +kernel
  simp only [hStart, hStop, hNumbers, hWidth] at hCarets
  obtain ⟨caretRow, hRows, hCarets⟩ := hCarets
  refine ⟨hText, hStart, hStop, caretRow, hRows, ?_⟩
  intro column
  have hEmpty : Text.lineAt text 2 = [] := by decide +kernel
  have hNone : ∀ other, ¬InRange text 2 5 2 other := by simp [InRange, hEmpty]
  rw [(hCarets 2 (by decide) (by decide)).2.2]
  constructor
  · rintro ⟨index, rfl, hIndex | ⟨-, hIndex⟩⟩
    · exact absurd hIndex (hNone index)
    · rw [if_neg (by decide)] at hIndex
      simp only [lineColumn]
      omega
  · rintro rfl
    exact ⟨0, rfl, Or.inr ⟨hNone, rfl⟩⟩

end CodeFrame

end ComponentQueries

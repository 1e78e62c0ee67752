import ComponentQueries.CodeFrame
import ComponentQueries.Proofs.Text.Points

/-! The rows of a frame without colours. Each line that is shown takes one row, and each line
that is marked takes a second one for its carets. -/
namespace ComponentQueries

namespace Text

/-- Lines are what line feeds divide a text into, as the library has it. -/
theorem lines_eq_splitOn (text : List Char) : lines text = text.splitOn '\n' := by
  induction text with
  | nil => rfl
  | cons c rest ih =>
      obtain ⟨line, others, hRest⟩ := List.exists_cons_of_ne_nil (lines_ne_nil rest)
      by_cases hFeed : c = '\n'
      · rw [lines, if_pos hFeed, List.splitOn_cons_eq_if_modifyHead, ih]
        simp [hFeed]
      · rw [lines_cons_of_ne hFeed hRest, List.splitOn_cons_eq_if_modifyHead, ← ih, hRest]
        simp [hFeed]

/-- Rows without line feeds are the lines of the text that they make up together. -/
theorem lines_intercalate {rows : List (List Char)} (hFeeds : ∀ row ∈ rows, '\n' ∉ row)
    (hSome : rows ≠ []) : lines (List.intercalate ['\n'] rows) = rows := by
  rw [lines_eq_splitOn, List.splitOn_intercalate '\n' hFeeds hSome]

/-- Nothing of a text is lost in its lines but the line feeds. -/
theorem intercalate_lines (text : List Char) : List.intercalate ['\n'] (lines text) = text := by
  rw [lines_eq_splitOn, List.intercalate_splitOn]

theorem mem_intercalate_of_mem {rows : List (List Char)} {row : List Char} {c : Char}
    (hRow : row ∈ rows) (hMem : c ∈ row) : c ∈ List.intercalate ['\n'] rows := by
  induction rows with
  | nil => cases hRow
  | cons first others ih =>
      cases others with
      | nil => simpa [List.mem_singleton.mp hRow] using hMem
      | cons second rest =>
          rw [List.intercalate_cons_cons, List.mem_append]
          rcases List.mem_cons.mp hRow with rfl | hRow
          · exact Or.inl (List.mem_append_left _ hMem)
          · exact Or.inr (ih hRow)

theorem flatMap_lineFeed_cons (row : List Char) (others : List (List Char)) :
    (row :: others).flatMap ('\n' :: ·) = '\n' :: List.intercalate ['\n'] (row :: others) := by
  induction others generalizing row with
  | nil => simp
  | cons second rest ih =>
      rw [List.flatMap_cons, ih, List.intercalate_cons_cons]
      simp

/-- Rows that are put together hold their own characters and line feeds. -/
theorem mem_of_mem_intercalate {rows : List (List Char)} {c : Char}
    (h : c ∈ List.intercalate ['\n'] rows) : c = '\n' ∨ ∃ row ∈ rows, c ∈ row := by
  cases rows with
  | nil => cases h
  | cons first others =>
      have hMem := List.mem_cons_of_mem '\n' h
      rw [← flatMap_lineFeed_cons] at hMem
      obtain ⟨row, hRow, hMem⟩ := List.mem_flatMap.mp hMem
      exact (List.mem_cons.mp hMem).imp_right fun hMem => ⟨row, hRow, hMem⟩

/-- The line with a number, counted from one. -/
def lineAt (text : List Char) (number : Nat) : List Char :=
  (lines text).getD (number - 1) []

/-- A number up to the number of lines is that of a line. -/
theorem lineAt_mem {text : List Char} {number : Nat} (hFirst : 1 ≤ number)
    (hLast : number ≤ (lines text).length) : lineAt text number ∈ lines text := by
  have hIndex : number - 1 < (lines text).length := by omega
  rw [lineAt, List.getD_eq_getElem?_getD, List.getElem?_eq_getElem hIndex]
  exact List.getElem_mem hIndex

theorem lineFeed_not_mem_of_mem_lines {text line : List Char} (h : line ∈ lines text) :
    '\n' ∉ line := by
  induction hLines : lines text generalizing text with
  | nil => exact absurd hLines (lines_ne_nil text)
  | cons first others ih =>
      obtain ⟨hFirst, hRest⟩ := eq_of_lines_cons hLines
      rw [hLines] at h
      rcases List.mem_cons.mp h with rfl | h
      · exact hFirst
      · rcases hRest with ⟨rfl, -⟩ | ⟨rest, -, hRest⟩
        · cases h
        · exact ih (hRest ▸ h) hRest

theorem mem_of_mem_lines {text line : List Char} {c : Char} (h : line ∈ lines text)
    (hMem : c ∈ line) : c ∈ text := by
  rw [← intercalate_lines text]
  exact mem_intercalate_of_mem h hMem

/-- Text of which nothing is dropped on its way to a terminal. -/
def Printable (text : List Char) : Prop :=
  ∀ c ∈ text, isStripped c = false

instance (text : List Char) : Decidable (Printable text) :=
  List.decidableBAll (fun c => isStripped c = false) text

/-- What can be printed is left as it is. -/
theorem Printable.sanitized_eq {text : List Char} (h : Printable text) : sanitized text = text := by
  rw [sanitized, List.filter_eq_self]
  intro c hMem
  simp [h c hMem]

@[simp] theorem sanitized_nil : sanitized [] = [] := rfl

@[simp] theorem sanitized_append (left right : List Char) :
    sanitized (left ++ right) = sanitized left ++ sanitized right :=
  List.filter_append ..

/-- A text is made printable row by row, since line feeds are kept. -/
theorem sanitized_intercalate (rows : List (List Char)) :
    sanitized (List.intercalate ['\n'] rows) = List.intercalate ['\n'] (rows.map sanitized) := by
  induction rows with
  | nil => rfl
  | cons row others ih =>
      cases others with
      | nil => simp
      | cons second rest =>
          have hFeed : sanitized ['\n'] = ['\n'] := by decide
          rw [List.intercalate_cons_cons, sanitized_append, sanitized_append, ih, hFeed,
            List.map_cons, List.map_cons, List.map_cons, List.intercalate_cons_cons]

theorem lineFeed_not_mem_sanitized {text : List Char} (h : '\n' ∉ text) : '\n' ∉ sanitized text :=
  fun hMem => h (List.mem_filter.mp hMem).1

end Text

namespace CodeFrame

/-- The row of a line: a marker, the number in a field of its own, a bar, and the line behind a
space unless it is empty. -/
def printedLine (width : Nat) (isMarked : Bool) (number : Nat) (line : List Char) : List Char :=
  (if isMarked then ['>', ' '] else [' ', ' ']) ++
    ((Nat.toDigits 10 number).leftpad width ' ' ++
      ([' ', '|'] ++ if line = [] then [] else ' ' :: line))

/-- A row that has no number. -/
def printedNote (width : Nat) (content : List Char) : List Char :=
  List.replicate (2 + width) ' ' ++ ([' ', '|', ' '] ++ content)

/-- The carets of a span, as far as they are from the beginning of the line. -/
def underline (span : Span) : List Char :=
  List.replicate (span.column - 1).toNat ' ' ++ List.replicate span.count.toNat '^'

/-- The rows of a line with what is said behind its carets. -/
def printedRow (width : Nat) (note : List Char) (row : Row) : List (List Char) :=
  printedLine width row.span.isSome row.number row.line ::
    row.span.toList.map fun span => printedNote width (underline span ++ note)

/-- The rows of lines. The first carets have the note. -/
def printedRows (width : Nat) (note : List Char) : List Row → List (List Char)
  | [] => []
  | row :: others =>
    printedRow width note row ++ printedRows width (if row.span.isSome then [] else note) others

/-- What a message looks like behind carets. -/
def noteOf : Option String → List Char
  | some message => ' ' :: message.toList
  | none => []

@[simp] theorem plain_nil : plain [] = [] := rfl

@[simp] theorem plain_cons (piece : Piece) (others : List Piece) :
    plain (piece :: others) = piece.content ++ plain others :=
  List.flatMap_cons

@[simp] theorem plain_append (left right : List Piece) :
    plain (left ++ right) = plain left ++ plain right :=
  List.flatMap_append

/-- Without its colours a line of the excerpt has a mark, its number and its text. -/
theorem plain_linePieces (width : Nat) (row : Row) :
    plain (linePieces width row) =
      printedLine width row.span.isSome row.number row.line := by
  have hAligned : rightAligned width row.number =
      (Nat.toDigits 10 row.number).leftpad width ' ' := rfl
  rw [linePieces, printedLine, hAligned]
  cases row.span.isSome <;> by_cases hEmpty : row.line = [] <;> simp [hEmpty]

/-- Without its colours a line under the excerpt has carets and perhaps a message. -/
theorem plain_caretPieces (width : Nat) (span : Span) (message : Option String) :
    plain (caretPieces width span message) =
      '\n' :: printedNote width (underline span ++ noteOf message) := by
  have hGutter : List.replicate (2 + width) ' ' = ' ' :: ' ' :: List.replicate width ' ' := by
    rw [Nat.add_comm]
    rfl
  rw [printedNote, hGutter]
  cases message <;> simp [caretPieces, underline, noteOf]

/-- Pieces that follow others put a line feed before each of their rows. The induction is on the
rows, for whatever message is still to be shown. -/
theorem plain_rowsPieces (width : Nat) (message : Option String) (rows : List Row) :
    plain (rowsPieces width false message rows) =
      (printedRows width (noteOf message) rows).flatMap ('\n' :: ·) := by
  induction rows generalizing message with
  | nil => rfl
  | cons row others ih =>
      rw [rowsPieces, printedRows, printedRow]
      cases hSpan : row.span with
      | none => simp [plain_linePieces, ih, hSpan]
      | some span => simp [plain_linePieces, plain_caretPieces, ih, hSpan, noteOf]

/-- The first row of a frame has no line feed before it. -/
theorem plain_rowsPieces_first (width : Nat) (message : Option String) (rows : List Row) :
    plain (rowsPieces width true message rows) =
      List.intercalate ['\n'] (printedRows width (noteOf message) rows) := by
  cases rows with
  | nil => rfl
  | cons row others =>
      have hLater : plain (rowsPieces width false message (row :: others)) =
          '\n' :: plain (rowsPieces width true message (row :: others)) := by
        rw [rowsPieces, rowsPieces]
        cases row.span <;> simp
      rw [plain_rowsPieces, printedRows, printedRow, List.cons_append,
        Text.flatMap_lineFeed_cons] at hLater
      rw [printedRows, printedRow, List.cons_append]
      exact (List.cons.inj hLater).2.symm

/-- The characters of a frame that come neither from the text nor from the message. -/
def IsFrameChar (c : Char) : Prop :=
  c ∈ [' ', '>', '|', '^'] ∨ c.isDigit = true

/-- A frame has no control characters of its own, apart from line feeds. -/
theorem IsFrameChar.space_le {c : Char} (h : IsFrameChar c) : 0x20 ≤ c.toNat := by
  rcases h with h | h
  · simp only [List.mem_cons, List.not_mem_nil, or_false] at h
    rcases h with rfl | rfl | rfl | rfl <;> decide
  · have hZero : ('0').toNat = 48 := by decide
    have hDigit := (Char.isDigit_iff_toNat.mp h).1
    omega

/-- The frame itself has no characters that are taken out before printing. -/
theorem IsFrameChar.isStripped_eq {c : Char} (h : IsFrameChar c) : Text.isStripped c = false := by
  have hSpace := h.space_le
  simp [Text.isStripped]
  omega

theorem IsFrameChar.ne_lineFeed {c : Char} (h : IsFrameChar c) : c ≠ '\n' := by
  rintro rfl
  exact absurd h.space_le (by decide)

/-- A printed line has characters of the frame and of the text only. -/
theorem mem_printedLine {width number : Nat} {isMarked : Bool} {line : List Char} {c : Char}
    (h : c ∈ printedLine width isMarked number line) : IsFrameChar c ∨ c ∈ line := by
  have hMarker : ∀ c ∈ if isMarked then ['>', ' '] else [' ', ' '], c ∈ [' ', '>', '|', '^'] := by
    cases isMarked <;> simp
  have hBar : ∀ c ∈ [' ', '|'], c ∈ [' ', '>', '|', '^'] := by simp
  rw [printedLine, List.mem_append, List.mem_append, List.mem_append] at h
  rcases h with h | h | h | h
  · exact Or.inl (Or.inl (hMarker c h))
  · rw [List.leftpad, List.mem_append] at h
    rcases h with h | h
    · exact Or.inl (Or.inl (by simp [(List.mem_replicate.mp h).2]))
    · exact Or.inl (Or.inr (Nat.isDigit_of_mem_toDigits (by decide) (by decide) h))
  · exact Or.inl (Or.inl (hBar c h))
  · split at h
    · cases h
    · rcases List.mem_cons.mp h with rfl | h
      · exact Or.inl (Or.inl (by decide))
      · exact Or.inr h

theorem mem_printedNote {width : Nat} {content : List Char} {c : Char}
    (h : c ∈ printedNote width content) : IsFrameChar c ∨ c ∈ content := by
  have hBar : ∀ c ∈ [' ', '|', ' '], c ∈ [' ', '>', '|', '^'] := by simp
  rw [printedNote, List.mem_append, List.mem_append] at h
  rcases h with h | h | h
  · exact Or.inl (Or.inl (by simp [(List.mem_replicate.mp h).2]))
  · exact Or.inl (Or.inl (hBar c h))
  · exact Or.inr h

/-- Carets and the spaces before them belong to the frame. -/
theorem mem_underline {span : Span} {c : Char} (h : c ∈ underline span) : IsFrameChar c := by
  rw [underline, List.mem_append, List.mem_replicate, List.mem_replicate] at h
  left
  rcases h with ⟨-, rfl⟩ | ⟨-, rfl⟩ <;> decide

/-- Where the characters of a row come from. -/
theorem mem_printedRow {width : Nat} {note printed : List Char} {row : Row} {c : Char}
    (hPrinted : printed ∈ printedRow width note row) (h : c ∈ printed) :
    IsFrameChar c ∨ c ∈ row.line ∨ c ∈ note := by
  rcases List.mem_cons.mp hPrinted with rfl | hPrinted
  · exact (mem_printedLine h).imp_right Or.inl
  · obtain ⟨span, -, rfl⟩ := List.mem_map.mp hPrinted
    rcases mem_printedNote h with h | h
    · exact Or.inl h
    · rcases List.mem_append.mp h with h | h
      · exact Or.inl (mem_underline h)
      · exact Or.inr (Or.inr h)

/-- Where the characters of the rows come from. The induction takes the note along, which is
shown only once. -/
theorem mem_printedRows {width : Nat} {note printed : List Char} {rows : List Row} {c : Char}
    (hPrinted : printed ∈ printedRows width note rows) (h : c ∈ printed) :
    IsFrameChar c ∨ (∃ row ∈ rows, c ∈ row.line) ∨ c ∈ note := by
  induction rows generalizing note with
  | nil => cases hPrinted
  | cons row others ih =>
      rw [printedRows, List.mem_append] at hPrinted
      rcases hPrinted with hPrinted | hPrinted
      · rcases mem_printedRow hPrinted h with h | h | h
        · exact Or.inl h
        · exact Or.inr (Or.inl ⟨row, List.mem_cons_self .., h⟩)
        · exact Or.inr (Or.inr h)
      · rcases ih hPrinted with h | ⟨other, hOther, h⟩ | h
        · exact Or.inl h
        · exact Or.inr (Or.inl ⟨other, List.mem_cons_of_mem _ hOther, h⟩)
        · split at h
          · cases h
          · exact Or.inr (Or.inr h)

/-- Only the note of a row with a printable line can lose characters. -/
theorem map_sanitized_printedRow (width : Nat) (note : List Char) {row : Row}
    (hLine : Text.Printable row.line) :
    (printedRow width note row).map Text.sanitized = printedRow width (Text.sanitized note) row := by
  have hPrinted : Text.sanitized (printedLine width row.span.isSome row.number row.line) =
      printedLine width row.span.isSome row.number row.line := by
    apply Text.Printable.sanitized_eq
    intro c hMem
    exact (mem_printedLine hMem).elim IsFrameChar.isStripped_eq (hLine c)
  have hNote : ∀ span, Text.sanitized (printedNote width (underline span ++ note)) =
      printedNote width (underline span ++ Text.sanitized note) := by
    intro span
    have hCarets : Text.Printable (printedNote width (underline span)) := by
      intro c hMem
      exact (mem_printedNote hMem).elim IsFrameChar.isStripped_eq
        fun h => (mem_underline h).isStripped_eq
    have hSplit : ∀ content, printedNote width (underline span ++ content) =
        printedNote width (underline span) ++ content := by simp [printedNote]
    rw [hSplit, hSplit, Text.sanitized_append, hCarets.sanitized_eq]
  rw [printedRow, printedRow, List.map_cons, hPrinted, List.map_map]
  congr 2
  funext span
  exact hNote span

/-- If the lines can be printed, only the note is changed to make the rows printable. -/
theorem map_sanitized_printedRows (width : Nat) (note : List Char) {rows : List Row}
    (hLines : ∀ row ∈ rows, Text.Printable row.line) :
    (printedRows width note rows).map Text.sanitized =
      printedRows width (Text.sanitized note) rows := by
  induction rows generalizing note with
  | nil => rfl
  | cons row others ih =>
      rw [printedRows, printedRows, List.map_append,
        map_sanitized_printedRow width note (hLines row (List.mem_cons_self ..)),
        ih _ fun other hOther => hLines other (List.mem_cons_of_mem _ hOther)]
      cases row.span <;> simp

/-- Without a note all rows are printed alike, the last one too. -/
theorem printedRows_without_note (width : Nat) (rows : List Row) :
    printedRows width [] rows = rows.flatMap (printedRow width []) := by
  induction rows with
  | nil => rfl
  | cons row others ih => simp [printedRows, ih]

/-- The note stands in the row of the first line that is marked. The induction passes over the
lines above it, which have no carets. -/
theorem printedRows_eq_flatMap {width marked : Nat} {note : List Char} {rows : List Row}
    (hOrder : rows.Pairwise fun upper lower => upper.number < lower.number)
    (hShown : ∃ row ∈ rows, row.number = marked)
    (hMarked : ∀ row ∈ rows, row.number = marked → row.span.isSome = true)
    (hSpans : ∀ row ∈ rows, row.span.isSome = true → marked ≤ row.number) :
    printedRows width note rows =
      rows.flatMap fun row => printedRow width (if row.number = marked then note else []) row := by
  induction rows with
  | nil => rfl
  | cons row others ih =>
      obtain ⟨hBelow, hOthers⟩ := List.pairwise_cons.mp hOrder
      rw [printedRows, List.flatMap_cons]
      by_cases hRow : row.number = marked
      · have hSpan := hMarked row (List.mem_cons_self ..) hRow
        rw [if_pos hRow, if_pos hSpan, printedRows_without_note]
        congr 1
        apply List.flatMap_congr
        intro other hOther
        have hLater := hBelow other hOther
        rw [if_neg (by omega)]
      · obtain ⟨first, hFirst, hNumber⟩ := hShown
        have hFirst : first ∈ others := by
          rcases List.mem_cons.mp hFirst with rfl | hFirst
          · exact absurd hNumber hRow
          · exact hFirst
        have hLater := hBelow first hFirst
        have hSpan : row.span = none := by
          rw [← Option.not_isSome_iff_eq_none]
          intro hSpan
          have hLe := hSpans row (List.mem_cons_self ..) hSpan
          omega
        have hRest := ih hOthers ⟨first, hFirst, hNumber⟩
          (fun other hOther => hMarked other (List.mem_cons_of_mem _ hOther))
          (fun other hOther => hSpans other (List.mem_cons_of_mem _ hOther))
        simp [printedRow, hSpan, hRest]

end CodeFrame

/-- The numbers of an interval within others. -/
theorem filter_range' {first : Nat} (hFirst : 1 ≤ first) (last count : Nat) :
    (List.range' 1 count).filter (fun n => first ≤ n ∧ n ≤ last) =
      List.range' first (min count last + 1 - first) := by
  induction count with
  | zero =>
      simp
      omega
  | succ count ih =>
      rw [List.range'_1_concat, List.filter_append, ih]
      by_cases hInside : first ≤ 1 + count ∧ 1 + count ≤ last
      · have hCount : min (count + 1) last + 1 - first = (min count last + 1 - first) + 1 := by omega
        have hNext : first + (min count last + 1 - first) = 1 + count := by omega
        rw [hCount, List.range'_1_concat, hNext]
        simp [hInside]
      · have hCount : min (count + 1) last + 1 - first = min count last + 1 - first := by omega
        rw [hCount]
        simp [hInside]

namespace CodeFrame

variable (text : List Char) (start : Position) (stop : Option Position)

/-- The numbers of the lines that are shown. -/
def shownNumbers : List Nat :=
  List.range' (firstShown start).toNat
    ((lastShown text start stop).toNat + 1 - (firstShown start).toNat)

/-- The row of the line with a number. -/
def rowAt (number : Nat) : Row :=
  ⟨number, Text.lineAt text number,
    span? number (Text.lineAt text number).length start stop⟩

/-- The lines with their numbers, counted from one. -/
theorem zipIdx_lines : (Text.lines text).zipIdx 1 =
    (List.range' 1 (Text.lines text).length).map fun n => (Text.lineAt text n, n) := by
  apply List.ext_getElem
  · simp
  · intro index hLeft hRight
    have hIndex : index < (Text.lines text).length := by simpa using hLeft
    simp [Text.lineAt, hIndex]

/-- The lines that are shown are those from the first to the last. -/
theorem mem_shownNumbers {number : Nat} :
    number ∈ shownNumbers text start stop ↔
      firstShown start ≤ number ∧ number ≤ lastShown text start stop := by
  have hFirst : 1 ≤ firstShown start := by
    unfold firstShown
    omega
  rw [shownNumbers, List.mem_range'_1]
  omega

/-- The lines around a range are those with the numbers of an interval. -/
theorem rows_eq : rows text start stop =
    (shownNumbers text start stop).map (rowAt text start stop) := by
  have hFirst : 1 ≤ firstShown start := by
    unfold firstShown
    omega
  have hLast : lastShown text start stop ≤ (Text.lines text).length := by
    unfold lastShown
    omega
  have hCount : min (Text.lines text).length (lastShown text start stop).toNat =
      (lastShown text start stop).toNat := by omega
  have hNumbers := filter_range' (show 1 ≤ (firstShown start).toNat by omega)
    (lastShown text start stop).toNat (Text.lines text).length
  rw [hCount] at hNumbers
  rw [shownNumbers, ← hNumbers, ← List.filterMap_eq_map, List.filterMap_filter, rows, zipIdx_lines,
    List.filterMap_map]
  apply List.filterMap_congr
  intro number hNumber
  have hPositive : 1 ≤ number := (List.mem_range'_1.mp hNumber).1
  have hInside : firstShown start ≤ number ∧ number ≤ lastShown text start stop ↔
      (firstShown start).toNat ≤ number ∧ number ≤ (lastShown text start stop).toNat := by omega
  simp only [Function.comp_apply, hInside, decide_eq_true_eq]
  rfl

/-- A line is marked exactly if it is one of those that the range touches. -/
theorem isSome_span?_iff {number : Int} {length : Nat} :
    (span? number length start stop).isSome = true ↔
      start.line ≤ number ∧ number ≤ lastMarked start stop := by
  unfold span?
  split
  · simp
    omega
  · have hInside : start.line ≤ number ∧ number ≤ lastMarked start stop := by omega
    simp only [hInside, and_self, iff_true]
    cases stop with
    | none => rfl
    | some stop =>
        dsimp only
        split
        · rfl
        · split
          · rfl
          · split <;> rfl

/-- The range touches the line with a number. -/
def IsMarked (number : Nat) : Prop :=
  start.line ≤ number ∧ number ≤ lastMarked start stop

instance (number : Nat) : Decidable (IsMarked start stop number) :=
  inferInstanceAs (Decidable (_ ∧ _))

/-- The carets under a line, as far as they are from its beginning. -/
def caretsUnder (number : Nat) : List Char :=
  ((rowAt text start stop number).span.map underline).getD []

/-- A marked line is followed by its carets, and no other line is followed by anything. -/
theorem printedRow_rowAt (width : Nat) (note : List Char) (number : Nat) :
    printedRow width note (rowAt text start stop number) =
      printedLine width (IsMarked start stop number) number (Text.lineAt text number) ::
        if IsMarked start stop number then
          [printedNote width (caretsUnder text start stop number ++ note)]
        else [] := by
  have hMarked : (rowAt text start stop number).span.isSome = true ↔ IsMarked start stop number :=
    isSome_span?_iff start stop
  rw [printedRow, caretsUnder]
  cases hSpan : (rowAt text start stop number).span with
  | none =>
      have hUnmarked : ¬IsMarked start stop number := by
        rw [← hMarked, hSpan]
        simp
      simp [hUnmarked, rowAt]
  | some span =>
      have hTouched : IsMarked start stop number := hMarked.mp (by simp [hSpan])
      simp [hTouched, rowAt]

/-- What a message adds to the row of the first carets. An empty one adds nothing. -/
def shownNote : Option String → List Char
  | some message => if message = "" then [] else ' ' :: Text.sanitized message.toList
  | none => []

/-- An empty message is shown like none. -/
theorem sanitized_noteOf_filter (message : Option String) :
    Text.sanitized (noteOf (message.filter (· ≠ ""))) = shownNote message := by
  cases message with
  | none => rfl
  | some message =>
      by_cases hEmpty : message = ""
      · rw [hEmpty]
        rfl
      · have hSpace : Text.isStripped ' ' = false := by decide
        have hKept : (some message).filter (· ≠ "") = some message := by simp [hEmpty]
        rw [hKept, noteOf, shownNote, if_neg hEmpty, Text.sanitized, Text.sanitized,
          List.filter_cons_of_pos (by simp [hSpace])]

theorem lineFeed_not_mem_shownNote {message : Option String}
    (h : ∀ note ∈ message, '\n' ∉ note.toList) : '\n' ∉ shownNote message := by
  cases message with
  | none => simp [shownNote]
  | some message =>
      have hFeed := Text.lineFeed_not_mem_sanitized (h message rfl)
      by_cases hEmpty : message = "" <;> simp [shownNote, hEmpty, hFeed]

/-- The width of the numbers: that of the last one. -/
def numberWidth : Nat :=
  (Nat.toDigits 10 (lastShown text start stop).toNat).length

/-- It makes no difference whether pieces are made printable one by one or together. -/
theorem plain_map_sanitized (pieces : List Piece) :
    plain (pieces.map fun piece => { piece with content := Text.sanitized piece.content }) =
      Text.sanitized (plain pieces) := by
  induction pieces with
  | nil => rfl
  | cons piece others ih => simp [ih]

/-- A frame consists of its rows. -/
theorem plain_pieces (message : Option String) :
    plain (pieces text start stop message) =
      List.intercalate ['\n'] ((printedRows (numberWidth text start stop)
        (noteOf (message.filter (· ≠ ""))) (rows text start stop)).map Text.sanitized) := by
  rw [pieces, plain_map_sanitized, plain_rowsPieces_first, Text.sanitized_intercalate]
  rfl

variable {text start stop}

/-- All lines that are shown are lines of the text. -/
theorem shownNumbers_pos {number : Nat} (h : number ∈ shownNumbers text start stop) :
    1 ≤ number ∧ number ≤ (Text.lines text).length := by
  have hShown := (mem_shownNumbers text start stop).mp h
  unfold firstShown lastShown at hShown
  omega

theorem line_mem_of_mem_rows {row : Row} (h : row ∈ rows text start stop) :
    row.line ∈ Text.lines text := by
  rw [rows_eq] at h
  obtain ⟨number, hNumber, rfl⟩ := List.mem_map.mp h
  obtain ⟨hFirst, hLast⟩ := shownNumbers_pos hNumber
  exact Text.lineAt_mem hFirst hLast

/-- The rows of a frame, one or two for each number that is shown. The message stands in the row
of carets under the line where the range begins. -/
theorem lines_render {message : Option String} (hText : Text.Printable text)
    (hFirst : 1 ≤ start.line) (hOrder : start.line ≤ lastMarked start stop)
    (hLast : lastMarked start stop ≤ (Text.lines text).length)
    (hMessage : ∀ note ∈ message, '\n' ∉ note.toList) :
    Text.lines (render text start stop message false).toList =
      (shownNumbers text start stop).flatMap fun (number : Nat) =>
        printedLine (numberWidth text start stop) (IsMarked start stop number) number
            (Text.lineAt text number) ::
          if IsMarked start stop number then
            [printedNote (numberWidth text start stop) (caretsUnder text start stop number ++
              if (number : Int) = start.line then shownNote message else [])]
          else [] := by
  obtain ⟨line, hLine⟩ := Int.eq_ofNat_of_zero_le (show 0 ≤ start.line by omega)
  have hShown : line ∈ shownNumbers text start stop := by
    rw [mem_shownNumbers, firstShown, lastShown, linesAbove, linesBelow]
    omega
  have hLines : ∀ row ∈ rows text start stop, Text.Printable row.line :=
    fun row hRow c hMem => hText c (Text.mem_of_mem_lines (line_mem_of_mem_rows hRow) hMem)
  have hRows : printedRows (numberWidth text start stop) (shownNote message)
        (rows text start stop) =
      (rows text start stop).flatMap fun row => printedRow (numberWidth text start stop)
        (if row.number = line then shownNote message else []) row := by
    rw [rows_eq]
    apply printedRows_eq_flatMap
    · exact List.pairwise_map.mpr (List.pairwise_lt_range' ..)
    · exact ⟨rowAt text start stop line, List.mem_map_of_mem hShown, rfl⟩
    · intro row hRow hNumber
      obtain ⟨number, -, rfl⟩ := List.mem_map.mp hRow
      apply (isSome_span?_iff start stop).mpr
      simp only [rowAt] at hNumber
      omega
    · intro row hRow hSpan
      obtain ⟨number, -, rfl⟩ := List.mem_map.mp hRow
      have hTouched := (isSome_span?_iff start stop).mp hSpan
      simp only [rowAt]
      omega
  have hPlain : (render text start stop message false).toList =
      List.intercalate ['\n'] (printedRows (numberWidth text start stop) (shownNote message)
        (rows text start stop)) := by
    rw [render, if_neg (by simp), String.toList_ofList, plain_pieces,
      map_sanitized_printedRows _ _ hLines, sanitized_noteOf_filter]
  rw [hPlain, Text.lines_intercalate, hRows, rows_eq, List.flatMap_map]
  · congr 1
    funext number
    rw [printedRow_rowAt]
    simp only [rowAt, hLine, Int.ofNat_inj]
    rfl
  · intro printed hPrinted hFeed
    rcases mem_printedRows hPrinted hFeed with h | ⟨row, hRow, h⟩ | h
    · exact h.ne_lineFeed rfl
    · exact Text.lineFeed_not_mem_of_mem_lines (line_mem_of_mem_rows hRow) h
    · exact lineFeed_not_mem_shownNote hMessage h
  · rw [hRows, rows_eq, Ne, List.flatMap_eq_nil_iff]
    intro hNone
    exact List.cons_ne_nil _ _ (hNone _ (List.mem_map_of_mem hShown))

end CodeFrame

end ComponentQueries

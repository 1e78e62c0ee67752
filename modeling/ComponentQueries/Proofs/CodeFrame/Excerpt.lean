import ComponentQueries.Proofs.CodeFrame.Layout

/-! A frame as an excerpt of its text. The lines that it shows can be read back from it. -/
namespace ComponentQueries.CodeFrame

/-- Reads the number and the line of a row. A row of carets has no number. -/
def readRow? (row : List Char) : Option (Nat × List Char) :=
  match (row.takeWhile (· ≠ '|')).filter Char.isDigit with
  | [] => none
  | digits => some (Nat.ofDigitChars 10 digits 0, (row.dropWhile (· ≠ '|')).drop 2)

/-- A row is read at its first bar. -/
theorem readRow?_append_bar {head : List Char} (hHead : '|' ∉ head) (tail : List Char) :
    readRow? (head ++ '|' :: tail) =
      match head.filter Char.isDigit with
      | [] => none
      | digits => some (Nat.ofDigitChars 10 digits 0, tail.drop 1) := by
  have hOther : ∀ c ∈ head, (decide (c ≠ '|')) = true := by
    intro c hMem
    simp only [ne_eq, decide_eq_true_eq]
    rintro rfl
    exact hHead hMem
  rw [readRow?, List.takeWhile_append_of_pos hOther, List.dropWhile_append_of_pos hOther]
  simp

theorem filter_isDigit_replicate (count : Nat) :
    (List.replicate count ' ').filter Char.isDigit = [] := by
  rw [List.filter_eq_nil_iff]
  intro c hMem
  rw [(List.mem_replicate.mp hMem).2]
  decide

/-- The number and the line can be read back from the row of a line. -/
theorem readRow?_printedLine (width : Nat) (isMarked : Bool) (number : Nat) (line : List Char) :
    readRow? (printedLine width isMarked number line) = some (number, line) := by
  have hDigits : ∀ c ∈ Nat.toDigits 10 number, c.isDigit = true :=
    fun c hMem => Nat.isDigit_of_mem_toDigits (by decide) (by decide) hMem
  let marker : List Char := if isMarked then ['>', ' '] else [' ', ' ']
  let head := marker ++ ((Nat.toDigits 10 number).leftpad width ' ' ++ [' '])
  have hPrinted : printedLine width isMarked number line =
      head ++ '|' :: if line = [] then [] else ' ' :: line := by
    simp [printedLine, head, marker]
  have hBar : '|' ∉ head := by
    have hNumber : '|' ∉ Nat.toDigits 10 number := fun hMem => absurd (hDigits _ hMem) (by decide)
    cases isMarked <;> simp [head, marker, List.leftpad, List.mem_replicate, hNumber]
  have hHead : head.filter Char.isDigit = Nat.toDigits 10 number := by
    have hMarker : marker.filter Char.isDigit = [] := by
      cases isMarked <;> decide
    have hSpace : [' '].filter Char.isDigit = [] := by decide
    rw [List.filter_append, List.filter_append, List.leftpad, List.filter_append, hMarker, hSpace,
      filter_isDigit_replicate, List.filter_eq_self.mpr hDigits]
    simp
  rw [hPrinted, readRow?_append_bar hBar, hHead]
  split
  · next hNone => exact absurd hNone Nat.toDigits_ne_nil
  · rw [Nat.ofDigitChars_ten_toDigits]
    by_cases hEmpty : line = [] <;> simp [hEmpty]

theorem readRow?_printedNote (width : Nat) (content : List Char) :
    readRow? (printedNote width content) = none := by
  have hPrinted : printedNote width content =
      (List.replicate (2 + width) ' ' ++ [' ']) ++ '|' :: ' ' :: content := by
    simp [printedNote]
  have hBar : '|' ∉ List.replicate (2 + width) ' ' ++ [' '] := by simp [List.mem_replicate]
  have hHead : (List.replicate (2 + width) ' ' ++ [' ']).filter Char.isDigit = [] := by
    have hSpace : [' '].filter Char.isDigit = [] := by decide
    rw [List.filter_append, filter_isDigit_replicate, hSpace]
    rfl
  rw [hPrinted, readRow?_append_bar hBar, hHead]

/-- Every marked line has at least one caret. -/
theorem span?_count_pos {number : Int} {length : Nat} {start : Position} {stop : Option Position}
    {span : Span} (h : span? number length start stop = some span) : 0 < span.count := by
  have hMax : ∀ count : Int, 0 < max count 1 := fun count => by omega
  unfold span? at h
  split at h
  · cases h
  · cases stop with
    | none =>
        cases h
        exact Int.one_pos
    | some stop =>
        dsimp only at h
        split at h
        · cases h
          exact hMax _
        · split at h
          · cases h
            exact hMax _
          · split at h
            · cases h
              exact hMax _
            · cases h
              exact hMax _

variable {text : List Char} {start : Position} {stop : Option Position}

/-- The carets under a marked line are spaces with carets behind them. -/
theorem caretsUnder_eq {number : Nat} (h : IsMarked start stop number) :
    ∃ blanks carets, 0 < carets ∧ caretsUnder text start stop number =
      List.replicate blanks ' ' ++ List.replicate carets '^' := by
  have hSome : (rowAt text start stop number).span.isSome = true :=
    (isSome_span?_iff start stop).mpr h
  obtain ⟨span, hSpan⟩ := Option.isSome_iff_exists.mp hSome
  have hCount := span?_count_pos hSpan
  refine ⟨(span.column - 1).toNat, span.count.toNat, by omega, ?_⟩
  rw [caretsUnder, hSpan]
  rfl

/-- A frame without colours is an excerpt of its text. It has one row for each line from two lines
above the range to three lines below it, as far as the text has these, and a second row with
carets for each line that the range touches. A row has a marker, the number at the width of the
last one, a bar and the line. The message, without what is dropped, stands behind the first
carets and nowhere else. Numbers and lines can be read back. -/
theorem render_excerpt {message : Option String} (hText : Text.Printable text)
    (hFirst : 1 ≤ start.line) (hOrder : start.line ≤ lastMarked start stop)
    (hLast : lastMarked start stop ≤ (Text.lines text).length)
    (hMessage : ∀ note ∈ message, '\n' ∉ note.toList) :
    let first := (max 1 (start.line - 2)).toNat
    let last := (min ((Text.lines text).length : Int) (lastMarked start stop + 3)).toNat
    let width := (Nat.toDigits 10 last).length
    let printed := Text.lines (render text start stop message false).toList
    (∃ carets : Nat → List Char,
      (∀ number, IsMarked start stop number → ∃ blanks count, 0 < count ∧
        carets number = List.replicate blanks ' ' ++ List.replicate count '^') ∧
      printed = (List.range' first (last + 1 - first)).flatMap fun (number : Nat) =>
        printedLine width (IsMarked start stop number) number (Text.lineAt text number) ::
          if IsMarked start stop number then
            [printedNote width (carets number ++
              if (number : Int) = start.line then shownNote message else [])]
          else []) ∧
    printed.filterMap readRow? =
      (List.range' first (last + 1 - first)).map fun number =>
        (number, Text.lineAt text number) := by
  intro first last width printed
  have hRows := lines_render hText hFirst hOrder hLast hMessage
  refine ⟨⟨caretsUnder text start stop, fun number h => caretsUnder_eq h, hRows⟩, ?_⟩
  show (Text.lines (render text start stop message false).toList).filterMap readRow? =
    (shownNumbers text start stop).map _
  rw [hRows, List.filterMap_flatMap, List.map_eq_flatMap]
  apply List.flatMap_congr
  intro number _
  rw [List.filterMap_cons_some (readRow?_printedLine ..)]
  split
  · rw [List.filterMap_cons_none (readRow?_printedNote ..)]
    rfl
  · rfl

/-- Ten lines, of which the seventh is empty. -/
def tenLines : List Char := "a\nb\nc\nd\ne\nf\n\nh\ni\nj".toList

/-- The lines from the fifth to the tenth, around a range on the seventh and the eighth. -/
theorem render_excerpt_tenLines :
    Text.Printable tenLines ∧ (Text.lines tenLines).length = 10 ∧
      render tenLines ⟨7, 1, 12⟩ (some ⟨8, 2, 14⟩) (some "why") false =
        "   5 | e\n   6 | f\n>  7 |\n     | ^ why\n>  8 | h\n     | ^\n   9 | i\n  10 | j" ∧
      (Text.lines (render tenLines ⟨7, 1, 12⟩ (some ⟨8, 2, 14⟩) (some "why") false).toList).filterMap
          readRow? =
        [(5, ['e']), (6, ['f']), (7, []), (8, ['h']), (9, ['i']), (10, ['j'])] := by
  have hText : Text.Printable tenLines := by decide +kernel
  have hCount : (Text.lines tenLines).length = 10 := by decide +kernel
  have hNote : ∀ note ∈ some "why", '\n' ∉ note.toList := by
    rintro note ⟨⟩
    decide
  have hLast : lastMarked ⟨7, 1, 12⟩ (some ⟨8, 2, 14⟩) ≤ (Text.lines tenLines).length := by
    rw [hCount]
    decide
  obtain ⟨-, hRead⟩ := render_excerpt hText (by decide) (by decide) hLast hNote
  exact ⟨hText, hCount, by decide +kernel, hRead.trans (by decide +kernel)⟩

/-- A message loses the characters that a terminal would act on, so it does not occur in the
frame as it was given. -/
theorem message_lost_from_frame :
    Text.Printable "query".toList ∧ '\n' ∉ "bell\x07".toList ∧
      render "query".toList ⟨1, 1, 0⟩ none (some "bell\x07") false =
        "> 1 | query\n    | ^ bell" ∧
      ∀ row ∈ Text.lines (render "query".toList ⟨1, 1, 0⟩ none (some "bell\x07") false).toList,
        ¬"bell\x07".toList <:+: row := by
  decide +kernel

end ComponentQueries.CodeFrame

import ComponentQueries.Proofs.CodeFrame.Layout
import ComponentQueries.Text.Glyph

/-! Frames in colours. If the colours are taken out again, what is left is the frame without
colours, with its tabs written as spaces. -/
namespace ComponentQueries

namespace Text

/-- A line in which tabs are spaces. -/
def untabbed (measure : Measure) (line : List Char) : List Char :=
  charsOf (expandTabs measure (unstyled line))

@[simp] theorem untabbed_nil (measure : Measure) : untabbed measure [] = [] := rfl

theorem untabbed_cons (measure : Measure) (c : Char) (rest : List Char) :
    untabbed measure (c :: rest) =
      if c = '\t' then List.replicate measure.tab.1 ' ' ++ untabbed measure.tab.2 rest
      else c :: untabbed (measure.push c) rest := by
  by_cases hTab : c = '\t' <;> simp [untabbed, unstyled, expandTabs, charsOf, hTab]

/-- The measure behind one more character of a text with several lines. -/
def Measure.read (measure : Measure) (c : Char) : Measure :=
  if c = '\n' then .start 0 else if c = '\t' then measure.tab.2 else measure.push c

/-- A text in which tabs are spaces, behind a part of its first line. -/
def tabsExpanded (measure : Measure) : List Char → List Char
  | [] => []
  | c :: rest =>
    (if c = '\t' then List.replicate measure.tab.1 ' ' else [c]) ++
      tabsExpanded (measure.read c) rest

theorem tabsExpanded_append (measure : Measure) (left right : List Char) :
    tabsExpanded measure (left ++ right) =
      tabsExpanded measure left ++ tabsExpanded (left.foldl Measure.read measure) right := by
  induction left generalizing measure with
  | nil => rfl
  | cons c rest ih => simp [tabsExpanded, ih]

theorem mem_tabsExpanded {measure : Measure} {text : List Char} {c : Char}
    (h : c ∈ tabsExpanded measure text) : c = ' ' ∨ c ≠ '\t' ∧ c ∈ text := by
  induction text generalizing measure with
  | nil => cases h
  | cons d rest ih =>
      rw [tabsExpanded, List.mem_append] at h
      rcases h with h | h
      · split at h
        · exact Or.inl (List.mem_replicate.mp h).2
        · next hTab =>
            rw [List.mem_singleton.mp h]
            exact Or.inr ⟨hTab, List.mem_cons_self ..⟩
      · exact (ih h).imp_right fun ⟨hTab, hMem⟩ => ⟨hTab, List.mem_cons_of_mem _ hMem⟩

/-- Only tabs are written in another way. -/
theorem tabsExpanded_eq_self_iff {measure : Measure} {text : List Char} :
    tabsExpanded measure text = text ↔ '\t' ∉ text := by
  constructor
  · intro hSame hMem
    rw [← hSame] at hMem
    rcases mem_tabsExpanded hMem with h | ⟨h, -⟩
    · exact absurd h (by decide)
    · exact h rfl
  · intro hTab
    induction text generalizing measure with
    | nil => rfl
    | cons c rest ih =>
        have hOther : c ≠ '\t' := fun h => hTab (h ▸ List.mem_cons_self ..)
        rw [tabsExpanded, if_neg hOther, ih fun h => hTab (List.mem_cons_of_mem _ h)]
        rfl

theorem lines_append_of_not_mem {left right line : List Char} {others : List (List Char)}
    (hLeft : '\n' ∉ left) (hRight : lines right = line :: others) :
    lines (left ++ right) = (left ++ line) :: others := by
  obtain ⟨above, hCount, -, hLines⟩ := exists_lines_append left
  have hAbove : above = [] := by
    rw [← List.length_eq_zero_iff, hCount, List.count_eq_zero]
    exact hLeft
  rw [hLines right line others hRight, hAbove, lastLine_eq_self hLeft]
  rfl

/-- Tabs are written as spaces line by line. The induction is on the text, with the part of the
first line that stands before it. -/
theorem lines_tabsExpanded {measure : Measure} {text line : List Char}
    {others : List (List Char)} (h : lines text = line :: others) :
    lines (tabsExpanded measure text) =
      untabbed measure line :: others.map (untabbed (.start 0)) := by
  induction text generalizing measure line others with
  | nil =>
      cases h
      rfl
  | cons c rest ih =>
      obtain ⟨first, more, hRest⟩ := List.exists_cons_of_ne_nil (lines_ne_nil rest)
      by_cases hFeed : c = '\n'
      · rw [lines, if_pos hFeed, hRest] at h
        cases h
        have hNext : lines (tabsExpanded (.start 0) rest) = _ := ih hRest
        simp [tabsExpanded, Measure.read, hFeed, lines, hNext]
      · rw [lines_cons_of_ne hFeed hRest] at h
        cases h
        rw [tabsExpanded, untabbed_cons]
        by_cases hTab : c = '\t'
        · have hSpaces : '\n' ∉ List.replicate measure.tab.1 ' ' := by simp [List.mem_replicate]
          have hNext : lines (tabsExpanded measure.tab.2 rest) = _ := ih hRest
          rw [if_pos hTab, if_pos hTab, Measure.read, if_neg hFeed, if_pos hTab]
          exact lines_append_of_not_mem hSpaces hNext
        · have hNext : lines (tabsExpanded (measure.push c) rest) = _ := ih hRest
          rw [if_neg hTab, if_neg hTab, Measure.read, if_neg hFeed, if_neg hTab]
          exact lines_cons_of_ne hFeed hNext

end Text

namespace CodeFrame

/-- A text without its colour sequences, each of which goes from an escape character with an
opening bracket to the next letter m. The text may begin inside of one. -/
def withoutColours (inside : Bool) : List Char → List Char
  | [] => []
  | c :: rest =>
    if inside then withoutColours (c ≠ 'm') rest
    else if c = '\x1b' ∧ rest.head? = some '[' then withoutColours true rest
    else c :: withoutColours false rest

theorem withoutColours_append {text : List Char} (hText : '\x1b' ∉ text) (rest : List Char) :
    withoutColours false (text ++ rest) = text ++ withoutColours false rest := by
  induction text with
  | nil => rfl
  | cons c others ih =>
      have hOther : c ≠ '\x1b' := fun h => hText (h ▸ List.mem_cons_self ..)
      rw [List.cons_append, withoutColours, ih fun h => hText (List.mem_cons_of_mem _ h)]
      simp [hOther]

theorem withoutColours_switch_append {style : Style} (hStyle : style ≠ .plain) (rest : List Char) :
    withoutColours false (style.switch ++ rest) = withoutColours false rest := by
  cases style with
  | plain => exact absurd rfl hStyle
  | marker => rfl
  | gutter => rfl

theorem withoutColours_reset_append (rest : List Char) :
    withoutColours false (reset ++ rest) = withoutColours false rest := rfl

/-- The characters of a segment. -/
def Segment.content : Segment → List Char
  | .lineBreak => ['\n']
  | .run content => content

/-- Colours are put around a segment and change nothing in it. -/
theorem withoutColours_paint_append (style : Style) {segment : Segment}
    (h : '\x1b' ∉ segment.content) (rest : List Char) :
    withoutColours false (paint style segment ++ rest) =
      segment.content ++ withoutColours false rest := by
  cases segment with
  | lineBreak => rfl
  | run content =>
      change '\x1b' ∉ content at h
      rw [paint]
      split
      · exact withoutColours_append h rest
      · next hStyle =>
          rw [List.append_assoc, List.append_assoc, withoutColours_switch_append hStyle,
            withoutColours_append h, withoutColours_reset_append]
          rfl

theorem withoutColours_flatMap_paint_append (style : Style) {parts : List Segment}
    (h : '\x1b' ∉ parts.flatMap Segment.content) (rest : List Char) :
    withoutColours false (parts.flatMap (paint style) ++ rest) =
      parts.flatMap Segment.content ++ withoutColours false rest := by
  induction parts with
  | nil => rfl
  | cons segment others ih =>
      rw [List.flatMap_cons, List.mem_append, not_or] at h
      rw [List.flatMap_cons, List.flatMap_cons, List.append_assoc,
        withoutColours_paint_append style h.1, ih h.2, List.append_assoc]

theorem flatMap_content_flush (run : List Char) : (flush run).flatMap Segment.content = run := by
  rw [flush]
  split
  · next hEmpty => simp [hEmpty]
  · simp [Segment.content]

/-- The segments of a text make up the text with its tabs as spaces, behind the run that was
begun before it, and lead to the measure at its end. -/
theorem segments_spec (measure : Text.Measure) (run text : List Char) :
    (segments measure run text).1.flatMap Segment.content =
        run ++ Text.tabsExpanded measure text ∧
      (segments measure run text).2 = text.foldl Text.Measure.read measure := by
  induction text generalizing measure run with
  | nil => exact ⟨by simp [segments, flatMap_content_flush, Text.tabsExpanded], rfl⟩
  | cons c rest ih =>
      rw [segments, Text.tabsExpanded, List.foldl_cons, Text.Measure.read]
      by_cases hFeed : c = '\n'
      · obtain ⟨hParts, hFinal⟩ := ih (.start 0) []
        simp [hFeed, flatMap_content_flush, Segment.content, hParts, hFinal]
      · by_cases hTab : c = '\t'
        · obtain ⟨hParts, hFinal⟩ := ih measure.tab.2 []
          simp [hTab, flatMap_content_flush, hParts, hFinal]
        · obtain ⟨hParts, hFinal⟩ := ih (measure.push c) (run ++ [c])
          simp [hFeed, hTab, hParts, hFinal]

/-- Without its colours, a frame is the plain one with its tabs as spaces. The induction is on
the pieces, with the measure that those before them have led to. -/
theorem withoutColours_highlightFrom (measure : Text.Measure) {pieces : List Piece}
    (h : '\x1b' ∉ plain pieces) :
    withoutColours false (highlightFrom measure pieces) =
      Text.tabsExpanded measure (plain pieces) := by
  induction pieces generalizing measure with
  | nil => rfl
  | cons piece others ih =>
      rw [plain_cons, List.mem_append, not_or] at h
      obtain ⟨hParts, hFinal⟩ := segments_spec measure [] piece.content
      rw [List.nil_append] at hParts
      have hEscape : '\x1b' ∉ (segments measure [] piece.content).1.flatMap Segment.content := by
        rw [hParts]
        intro hMem
        rcases Text.mem_tabsExpanded hMem with hSpace | ⟨-, hMem⟩
        · exact absurd hSpace (by decide)
        · exact h.1 hMem
      rw [highlightFrom, plain_cons, Text.tabsExpanded_append, ← hFinal, ← hParts, ← ih _ h.2]
      exact withoutColours_flatMap_paint_append piece.style hEscape _

theorem mem_noteOf_filter {message : Option String} {p : String → Bool} {c : Char}
    (h : c ∈ noteOf (message.filter p)) : c = ' ' ∨ ∃ note ∈ message, c ∈ note.toList := by
  cases hKept : message.filter p with
  | none =>
      rw [hKept] at h
      cases h
  | some note =>
      rw [hKept] at h
      exact (List.mem_cons.mp h).imp_right fun h => ⟨note, (Option.filter_eq_some_iff.mp hKept).1, h⟩

/-- Control characters of a frame come from the text or from the message. -/
theorem mem_plain_pieces {text : List Char} {start : Position} {stop : Option Position}
    {message : Option String} {c : Char} (hControl : c.toNat < 0x20) (hFeed : c ≠ '\n')
    (h : c ∈ plain (pieces text start stop message)) :
    c ∈ text ∨ ∃ note ∈ message, c ∈ note.toList := by
  rw [plain_pieces] at h
  rcases Text.mem_of_mem_intercalate h with h | ⟨row, hRow, hMem⟩
  · exact absurd h hFeed
  · obtain ⟨printed, hPrinted, rfl⟩ := List.mem_map.mp hRow
    rcases mem_printedRows hPrinted (List.mem_of_mem_filter hMem) with
      hFrame | ⟨shown, hShown, hLine⟩ | hNote
    · exact absurd hFrame.space_le (by omega)
    · exact Or.inl (Text.mem_of_mem_lines (line_mem_of_mem_rows hShown) hLine)
    · rcases mem_noteOf_filter hNote with rfl | hNote
      · exact absurd hControl (by decide)
      · exact Or.inr hNote

/-- A frame in colours shows the rows of the plain one with their tabs as spaces, so that it adds
nothing but colours exactly if there is no tab in the rows. -/
theorem lines_without_colours {text : List Char} {start : Position} {stop : Option Position}
    {message : Option String} (hText : '\x1b' ∉ text)
    (hMessage : ∀ note ∈ message, '\x1b' ∉ note.toList) :
    let coloured := withoutColours false (render text start stop message true).toList
    let uncoloured := (render text start stop message false).toList
    Text.lines coloured = (Text.lines uncoloured).map (Text.untabbed (.start 0)) ∧
      (coloured = uncoloured ↔ '\t' ∉ uncoloured) ∧
      ('\t' ∉ text → (∀ note ∈ message, '\t' ∉ note.toList) → coloured = uncoloured) := by
  intro coloured uncoloured
  have hPlain : uncoloured = plain (pieces text start stop message) := String.toList_ofList
  have hEscape : '\x1b' ∉ plain (pieces text start stop message) := by
    intro hMem
    rcases mem_plain_pieces (by decide) (by decide) hMem with h | ⟨note, hNote, h⟩
    · exact hText h
    · exact hMessage note hNote h
  have hColoured : coloured = Text.tabsExpanded (.start 0) uncoloured := by
    rw [hPlain, ← withoutColours_highlightFrom (.start 0) hEscape]
    exact congrArg (withoutColours false) String.toList_ofList
  have hSame : coloured = uncoloured ↔ '\t' ∉ uncoloured := by
    rw [hColoured, Text.tabsExpanded_eq_self_iff]
  refine ⟨?_, hSame, ?_⟩
  · obtain ⟨line, others, hLines⟩ := List.exists_cons_of_ne_nil (Text.lines_ne_nil uncoloured)
    rw [hColoured, Text.lines_tabsExpanded hLines, hLines, List.map_cons]
  · intro hTextTab hMessageTab
    rw [hSame, hPlain]
    intro hMem
    rcases mem_plain_pieces (by decide) (by decide) hMem with h | ⟨note, hNote, h⟩
    · exact hTextTab h
    · exact hMessageTab note hNote h

/-- The caret of a plain frame stands under the third character of its line. In colours the two
tabs before that character take ten columns, and the caret stands under a space. -/
theorem lines_without_colours_leadingTabs :
    let text := "\t\tx = `y`".toList
    let frame := render text ⟨1, 3, 2⟩ (some ⟨1, 4, 3⟩) (some "here")
    '\x1b' ∉ text ∧ '\x1b' ∉ "here".toList ∧
      Text.lines (frame false).toList = ["> 1 | \t\tx = `y`".toList, "    |   ^ here".toList] ∧
      Text.lines (withoutColours false (frame true).toList) =
        ["> 1 |           x = `y`".toList, "    |   ^ here".toList] ∧
      withoutColours false (frame true).toList ≠ (frame false).toList := by
  intro text frame
  have hText : '\x1b' ∉ text := by decide
  have hNote : '\x1b' ∉ "here".toList := by decide
  have hMessage : ∀ note ∈ some "here", '\x1b' ∉ note.toList := by
    intro note hMem
    cases hMem
    exact hNote
  have hPlain : Text.lines (frame false).toList =
      ["> 1 | \t\tx = `y`".toList, "    |   ^ here".toList] := by decide +kernel
  obtain ⟨hLines, hSame, -⟩ :=
    @lines_without_colours text ⟨1, 3, 2⟩ (some ⟨1, 4, 3⟩) (some "here") hText hMessage
  refine ⟨hText, hNote, hPlain, ?_, ?_⟩
  · rw [hLines, hPlain]
    decide +kernel
  · rw [Ne, hSame, not_not]
    exact Text.mem_of_mem_lines (hPlain ▸ List.mem_cons_self ..) (by decide)

end CodeFrame

end ComponentQueries

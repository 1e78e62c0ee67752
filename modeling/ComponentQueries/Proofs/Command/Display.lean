import ComponentQueries.Command.Report

/-! When something can be printed. Only a bracket can make wrong markup and a style with a
fault, and only a joiner can make a line that cannot be cut. A text without the two is
printed, where codes for pictographs count as the pictographs. -/
namespace ComponentQueries

/-- A computation has a result, and the result is a good one. -/
def Yields {ε α : Type} (good : α → Prop) (computation : Except ε α) : Prop :=
  ∃ value, computation = .ok value ∧ good value

namespace Yields

variable {ε ε' α β : Type} {good : α → Prop}

theorem ok {value : α} (hGood : good value) : Yields good (.ok value : Except ε α) :=
  ⟨value, rfl, hGood⟩

/-- A computation that goes on with a good value comes to one, if each good value leads there. -/
theorem bind {computation : Except ε α} {next : α → Except ε β} {good' : β → Prop}
    (first : Yields good computation)
    (second : ∀ value, good value → Yields good' (next value)) :
    Yields good' (computation >>= next) := by
  obtain ⟨value, rfl, hGood⟩ := first
  exact second value hGood

theorem mapError {computation : Except ε α} (h : Yields good computation) (f : ε → ε') :
    Yields good (computation.mapError f) := by
  obtain ⟨value, rfl, hGood⟩ := h
  exact .ok hGood

/-- Good values for all items make a list of good values. -/
theorem mapM {items : List β} {f : β → Except ε α} (h : ∀ item ∈ items, Yields good (f item)) :
    Yields (fun values => ∀ value ∈ values, good value) (items.mapM f) := by
  induction items with
  | nil => exact .ok fun value hValue => absurd hValue List.not_mem_nil
  | cons item others ih =>
      rw [List.mapM_cons]
      refine (h item List.mem_cons_self).bind fun value hValue => ?_
      refine (ih fun other hOther => h other (List.mem_cons_of_mem _ hOther)).bind ?_
      exact fun values hValues => .ok (List.forall_mem_cons.mpr ⟨hValue, hValues⟩)

end Yields

namespace Text

/-- Behind an open cluster of a text without a joiner, clusters take the cells by which the
measure of the text grows. The two keep different last characters behind a selector, but both
or neither of these can become a picture. -/
theorem cellsOfClusters_clustersFrom {text : List Char} (h : joiner ∉ text) (cluster : Cluster)
    {last last' : Option Char}
    (hLast : last.any (inRanges pictureRanges) = last'.any (inRanges pictureRanges))
    (cells : Nat) :
    cellsOfClusters (clustersFrom cluster last text) + cells =
      cluster.cells + (text.foldl Measure.push ⟨cells, last', false⟩).cells := by
  induction text generalizing cluster last last' cells with
  | nil => rfl
  | cons c rest ih =>
      obtain ⟨hFirst, hRest⟩ := not_or.mp (mt List.mem_cons.mpr h)
      have hNoJoiner : c ≠ joiner := Ne.symm hFirst
      rw [clustersFrom.eq_def]
      simp only [hNoJoiner, if_false, List.foldl_cons, Measure.push, Bool.false_eq_true]
      by_cases hSelector : c = pictureSelector
      · cases hPicture : last'.any (inRanges pictureRanges) with
        | true =>
            have hGrown := @ih hRest (cluster.extend [c] 1) none none rfl (cells + 1)
            rw [if_pos hSelector, if_pos (hLast.trans hPicture), if_pos hSelector, if_pos rfl]
            simp only [Cluster.extend] at hGrown ⊢
            omega
        | false =>
            rw [if_pos hSelector, if_neg (by rw [hLast, hPicture]; simp), if_pos hSelector,
              if_neg (by simp)]
            exact @ih hRest (cluster.extend [c] 0) last none (hLast.trans hPicture) cells
      · rw [if_neg hSelector, if_neg hSelector]
        by_cases hWidth : cellWidth c = 0
        · rw [if_pos hWidth, if_pos hWidth]
          exact ih hRest (cluster.extend [c] 0) hLast cells
        · have hNext := @ih hRest ⟨[c], cellWidth c⟩ (some c) (some c) rfl (cells + cellWidth c)
          rw [if_neg hWidth, if_neg hWidth, cellsOfClusters]
          dsimp only at hNext
          omega

/-- The first character of a text is measured like its cluster. -/
theorem push_start {c : Char} (h : c ≠ joiner) :
    (Measure.start 0).push c =
      ⟨cellWidth c, if cellWidth c = 0 then none else some c, false⟩ := by
  have hSelected : cellWidth pictureSelector = 0 := by decide
  by_cases hSelector : c = pictureSelector
  · subst hSelector
    simp [Measure.push, Measure.start, h, hSelected]
  · by_cases hWidth : cellWidth c = 0
    · simp [Measure.push, Measure.start, h, hSelector, hWidth]
    · simp [Measure.push, Measure.start, h, hSelector, hWidth]

/-- Without a joiner, clusters take as many cells as their text. -/
theorem cellsOfClusters_clusters {text : List Char} (h : joiner ∉ text) :
    cellsOfClusters (clusters text) = cellLength text := by
  cases text with
  | nil => rfl
  | cons c rest =>
      obtain ⟨hFirst, hRest⟩ := not_or.mp (mt List.mem_cons.mpr h)
      rw [clusters, cellLength, List.foldl_cons, push_start (Ne.symm hFirst)]
      have hMeasure := cellsOfClusters_clustersFrom hRest ⟨[c], cellWidth c⟩
        (Eq.refl ((if cellWidth c = 0 then none else some c).any (inRanges pictureRanges)))
        (cellWidth c)
      dsimp only at hMeasure
      omega

/-- The characters of clusters are those of their text. -/
theorem subset_of_mem_clustersFrom {text : List Char} {cluster part : Cluster}
    {last : Option Char} (h : part ∈ clustersFrom cluster last text) :
    part.content ⊆ cluster.content ++ text := by
  fun_induction clustersFrom cluster last text <;> grind [Cluster.extend]

/-- Clusters are cut out of the text. -/
theorem subset_of_mem_clusters {text : List Char} {part : Cluster} (h : part ∈ clusters text) :
    part.content ⊆ text := by
  cases text with
  | nil => cases h
  | cons c rest => exact subset_of_mem_clustersFrom h

/-- Cropping drops clusters and puts spaces in their place, which are no joiners. -/
theorem joiner_not_mem_cropClusters {parts : List Cluster}
    (h : ∀ part ∈ parts, joiner ∉ part.content) (width : Nat) :
    joiner ∉ cropClusters width parts := by
  induction parts generalizing width with
  | nil => exact List.not_mem_nil
  | cons part others ih =>
      obtain ⟨hFirst, hOthers⟩ := List.forall_mem_cons.mp h
      rw [cropClusters]
      split
      · exact fun hMem => (List.mem_append.mp hMem).elim hFirst (ih hOthers _)
      · split
        · exact List.not_mem_nil
        · decide

/-- A text without a joiner can be cut wherever it is long enough. -/
theorem crop_yields {text : List Char} (h : joiner ∉ text) {width : Nat}
    (hWidth : width < cellLength text) : Yields (joiner ∉ ·) (crop width text) := by
  unfold crop
  simp only [cellsOfClusters_clusters h]
  split
  · exact .ok List.not_mem_nil
  · rw [if_neg (by omega), if_neg (by omega)]
    refine .ok (joiner_not_mem_cropClusters (fun part hPart hMem => ?_) width)
    exact h (subset_of_mem_clusters hPart hMem)

/-- Glyphs that can be shown: their styles have no fault, and none is a joiner. -/
def Showable (glyphs : List Glyph) : Prop :=
  ∀ glyph ∈ glyphs, glyph.fault = none ∧ glyph.char ≠ joiner

theorem Showable.subset {few all : List Glyph} (h : Showable all) (hSubset : few ⊆ all) :
    Showable few :=
  fun glyph hGlyph => h glyph (hSubset hGlyph)

theorem Showable.append {first second : List Glyph} (hFirst : Showable first)
    (hSecond : Showable second) : Showable (first ++ second) :=
  fun glyph hGlyph => (List.mem_append.mp hGlyph).elim (hFirst glyph) (hSecond glyph)

/-- Text without joiners can be shown in any style and at any stretch. -/
theorem showable_map {text : List Char} (h : joiner ∉ text) (stretch : Nat) :
    Showable (text.map fun c => ⟨c, stretch, none⟩) := by
  intro glyph hGlyph
  obtain ⟨c, hMem, rfl⟩ := List.mem_map.mp hGlyph
  exact ⟨rfl, fun hJoiner => h (hJoiner ▸ hMem)⟩

theorem showable_unstyled {text : List Char} (h : joiner ∉ text) : Showable (unstyled text) :=
  showable_map h 0

/-- Lines that can be shown have no joiners in them. -/
theorem Showable.joiner_not_mem {line : List Glyph} (h : Showable line) :
    joiner ∉ charsOf line := by
  intro hMem
  obtain ⟨glyph, hGlyph, hChar⟩ := List.mem_map.mp hMem
  exact (h glyph hGlyph).2 hChar

/-- Dividing a text into lines takes glyphs away and adds none. -/
theorem subset_of_mem_glyphLines {glyphs line : List Glyph} (h : line ∈ glyphLines glyphs) :
    line ⊆ glyphs := by
  induction glyphs generalizing line with
  | nil =>
      rw [List.mem_singleton.mp h]
      exact List.Subset.refl _
  | cons glyph rest ih =>
      rw [glyphLines] at h
      split at h
      · rcases List.mem_cons.mp h with rfl | hRest
        · exact List.nil_subset _
        · exact List.subset_cons_of_subset _ (ih hRest)
      · split at h
        · rw [List.mem_singleton.mp h]
          simp
        · next first others hLines =>
            rcases List.mem_cons.mp h with rfl | hOther
            · exact List.cons_subset_cons _ (ih (by rw [hLines]; exact List.mem_cons_self))
            · refine List.subset_cons_of_subset _ (ih ?_)
              rw [hLines]
              exact List.mem_cons_of_mem _ hOther

/-- Tabs become spaces. -/
theorem Showable.expandTabs {line : List Glyph} (h : Showable line) (measure : Measure) :
    Showable (expandTabs measure line) := by
  induction line generalizing measure with
  | nil => exact h
  | cons glyph rest ih =>
      have hGlyph := h glyph List.mem_cons_self
      have hRest : Showable rest := h.subset (List.subset_cons_self _ _)
      rw [Text.expandTabs]
      split
      · refine Showable.append ?_ (ih hRest _)
        intro space hSpace
        rw [List.eq_of_mem_replicate hSpace]
        exact ⟨hGlyph.1, (by decide : ' ' ≠ joiner)⟩
      · exact List.forall_mem_cons.mpr ⟨hGlyph, ih hRest _⟩

/-- The parts of a line are made of its glyphs. -/
theorem subset_of_mem_divide {start : Nat} {positions : List Nat} {line part : List Glyph}
    (h : part ∈ divide start positions line) : part ⊆ line := by
  induction positions generalizing start line with
  | nil =>
      rw [List.mem_singleton.mp h]
      exact List.Subset.refl _
  | cons position others ih =>
      rcases List.mem_cons.mp h with rfl | hRest
      · exact List.take_subset _ _
      · exact List.Subset.trans (ih hRest) (List.drop_subset _ _)

/-- Characters may be replaced by others that are no joiners. -/
theorem Showable.replaceChars {line : List Glyph} (h : Showable line) {chars : List Char}
    (hChars : joiner ∉ chars) : Showable (replaceChars line chars) := by
  refine Showable.append ?_ (showable_unstyled fun hMem => hChars (List.drop_subset _ _ hMem))
  intro glyph hGlyph
  obtain ⟨⟨owner, c⟩, hPair, rfl⟩ := List.mem_map.mp hGlyph
  obtain ⟨hOwner, hMem⟩ := List.of_mem_zip hPair
  exact ⟨(h owner hOwner).1, fun hJoiner => hChars (hJoiner ▸ hMem)⟩

/-- A line is cut to a width, and may end in an ellipsis then. Neither brings in a joiner. -/
theorem fitted_yields {line : List Glyph} (h : Showable line) (width : Nat)
    (overflow : Overflow) : Yields Showable (fitted width overflow line) := by
  unfold fitted
  dsimp only
  split
  · exact .ok h
  · next hLong =>
      cases overflow with
      | fold =>
          refine (crop_yields h.joiner_not_mem (by omega)).bind fun kept hKept => ?_
          exact .ok (h.replaceChars hKept)
      | ellipsis =>
          refine (crop_yields h.joiner_not_mem (by omega)).bind fun kept hKept => ?_
          refine .ok (h.replaceChars fun hMem => ?_)
          exact (List.mem_append.mp hMem).elim hKept (by decide)

/-- A line that can be shown is broken into lines that can. -/
theorem screenLines_yields {line : List Glyph} (h : Showable line) (width : Nat)
    (wraps : Bool) (overflow : Overflow) :
    Yields (fun lines => ∀ line ∈ lines, Showable line)
      (screenLines width wraps overflow line) := by
  refine Yields.mapM fun part hPart => fitted_yields ?_ width overflow
  have hTabs := h.expandTabs (.start 0)
  exact (hTabs.subset (subset_of_mem_divide hPart)).subset (List.take_subset _ _)

/-- Texts that can be shown. -/
structure Styled.Clean (styled : Styled) : Prop where
  glyphs : Showable styled.glyphs
  bare : styled.bare = []

/-- A text without markup has no style that could be wrong. -/
theorem Styled.clean_ofText {text : List Char} (h : joiner ∉ text) : (Styled.ofText text).Clean :=
  ⟨showable_unstyled h, rfl⟩

/-- The styles of a clean text are all known, and so are those of its lines. -/
theorem Styled.Clean.fault?_eq_none {styled : Styled} (h : styled.Clean)
    {lines : List (List Glyph)} (hLines : ∀ line ∈ lines, Showable line) :
    styled.fault? lines = none := by
  have hFlat : lines.flatten.findSome? Glyph.fault = none := by
    rw [List.findSome?_eq_none_iff]
    intro glyph hGlyph
    obtain ⟨line, hLine, hMem⟩ := List.mem_flatten.mp hGlyph
    exact (hLines line hLine glyph hMem).1
  have hBare : ∀ wanted : Nat × NumeralError → Bool, styled.bare.filter wanted = [] := by
    simp [h.bare]
  unfold fault?
  simp only [hFlat, hBare, ite_self]
  split
  · rfl
  · rfl

/-- A clean text takes lines that are clean themselves. -/
theorem terminalLines_yields {styled : Styled} (h : styled.Clean) (width : Nat) (wraps : Bool)
    (overflow : Overflow) :
    Yields (fun lines => ∀ line ∈ lines, Showable line)
      (terminalLines width wraps overflow styled) := by
  obtain ⟨screens, hScreens, hShowable⟩ := Yields.mapM fun line hLine =>
    screenLines_yields (h.glyphs.subset (subset_of_mem_glyphLines hLine)) width wraps overflow
  have hFlat : ∀ line ∈ screens.flatten, Showable line := by
    intro line hLine
    obtain ⟨screen, hMem, hIn⟩ := List.mem_flatten.mp hLine
    exact hShowable screen hMem line hIn
  unfold terminalLines
  rw [hScreens]
  dsimp only
  rw [h.fault?_eq_none hFlat]
  exact .ok hFlat

/-- Stretches of characters without a joiner. -/
def Unjoined (stretches : List (List Char)) : Prop :=
  ∀ stretch ∈ stretches, joiner ∉ stretch

/-- The stretches of one style have no joiners if the line has none. -/
theorem Showable.unjoined {line : List Glyph} (h : Showable line) : Unjoined (stretches line) := by
  induction line with
  | nil => exact fun stretch hStretch => absurd hStretch List.not_mem_nil
  | cons glyph rest ih =>
      have hGlyph : joiner ≠ glyph.char := Ne.symm (h glyph List.mem_cons_self).2
      have hSingle : joiner ∉ [glyph.char] := fun hMem => hGlyph (List.mem_singleton.mp hMem)
      have hRest := ih (h.subset (List.subset_cons_self _ _))
      rw [stretches]
      split
      · next next first others _ hOthers =>
          rw [hOthers] at hRest
          obtain ⟨hFirst, hMore⟩ := List.forall_mem_cons.mp hRest
          split
          · refine List.forall_mem_cons.mpr ⟨fun hMem => ?_, hMore⟩
            exact (List.mem_cons.mp hMem).elim hGlyph hFirst
          · exact List.forall_mem_cons.mpr ⟨hSingle, hRest⟩
      · exact List.forall_mem_cons.mpr ⟨hSingle, hRest⟩

/-- The stretch at the edge is cropped, those before it are kept and those behind it dropped. -/
theorem cropStretches_yields {line : List (List Char)} (h : Unjoined line) (width : Nat) :
    Yields Unjoined (cropStretches width line) := by
  induction line generalizing width with
  | nil => exact .ok h
  | cons stretch others ih =>
      obtain ⟨hFirst, hOthers⟩ := List.forall_mem_cons.mp h
      rw [cropStretches]
      split
      · refine (ih hOthers _).bind fun kept hKept => ?_
        exact .ok (List.forall_mem_cons.mpr ⟨hFirst, hKept⟩)
      · split
        · exact .ok (List.forall_mem_singleton.mpr hFirst)
        · refine (crop_yields hFirst (by omega)).bind fun kept hKept => ?_
          exact .ok (List.forall_mem_singleton.mpr hKept)

theorem limited_yields {line : List (List Char)} (h : Unjoined line) (width : Nat) :
    Yields Unjoined (limited width line) := by
  unfold limited
  split
  · exact .ok h
  · exact cropStretches_yields h width

/-- A line is cropped if it is too long, and filled with spaces if it is too short. -/
theorem adjusted_yields {line : List (List Char)} (h : Unjoined line) (width : Nat) :
    Yields Unjoined (adjusted width line) := by
  unfold adjusted
  dsimp only
  split
  · refine .ok fun stretch hStretch => ?_
    rcases List.mem_append.mp hStretch with hOld | hNew
    · exact h stretch hOld
    · rw [List.mem_singleton.mp hNew]
      exact fun hMem => absurd (List.eq_of_mem_replicate hMem) (by decide)
  · exact limited_yields h width

end Text

/-- A clean text can be printed at the width of the terminal. -/
theorem Terminal.printed_yields {styled : Text.Styled} (h : styled.Clean) :
    Yields (fun _ => True) (printed styled) := by
  refine (Text.terminalLines_yields h width true .fold).bind fun lines hLines => ?_
  have hLimited := Yields.mapM fun line hLine =>
    Text.limited_yields (hLines line hLine).unjoined width
  exact (hLimited.mapError Text.DisplayError.misfit).bind fun _ _ => .ok True.intro

namespace Grid

/-- A line of a cell is brought to the width of its column. -/
theorem cellLine_yields {line : List Text.Glyph} (h : Text.Showable line) (width : Nat) :
    Yields (fun _ => True) (cellLine width line) := by
  have hPadded : Text.Showable (padded (width - 2) line) := by
    refine h.append fun glyph hGlyph => ?_
    rw [List.eq_of_mem_replicate hGlyph]
    exact ⟨rfl, by decide⟩
  refine (Text.adjusted_yields hPadded.unjoined _).bind fun inner hInner => ?_
  have hOuter : Text.Unjoined ([' '] :: inner ++ [[' ']]) := by
    intro stretch hStretch
    simp only [List.cons_append, List.mem_cons, List.mem_append, List.not_mem_nil,
      or_false] at hStretch
    rcases hStretch with rfl | hMem | rfl
    · decide
    · exact hInner stretch hMem
    · decide
  refine (Text.adjusted_yields hOuter width).bind fun outer hAdjusted => ?_
  exact (Text.adjusted_yields hAdjusted width).bind fun _ _ => .ok True.intro

/-- A cell is as many lines as its text needs in the column. -/
theorem cellLines_yields (column : Column) (width : Nat) {cell : Text.Styled} (h : cell.Clean) :
    Yields (fun _ => True) (cellLines column width cell) := by
  unfold cellLines
  split
  · exact .ok True.intro
  · refine (Text.terminalLines_yields h _ _ _).bind fun lines hLines => ?_
    obtain ⟨shown, hShown, -⟩ :=
      (Yields.mapM fun line hLine => cellLine_yields (hLines line hLine) width).mapError
        Text.DisplayError.misfit
    exact ⟨shown, hShown, True.intro⟩

/-- A row of clean cells can be drawn. -/
theorem rowLines_yields (bar : Char) (heading : Bool) (columns : List (Column × Nat))
    {cells : List Text.Styled} (h : ∀ cell ∈ cells, cell.Clean) :
    Yields (fun _ => True) (rowLines bar heading columns cells) := by
  have hPiece : ∀ entry ∈ columns.zip cells, Yields (fun _ => True)
      (return (entry.1.2, ← cellLines entry.1.1 entry.1.2 entry.2)) := by
    intro entry hEntry
    have hCell := cellLines_yields entry.1.1 entry.1.2 (h _ (List.of_mem_zip hEntry).2)
    exact hCell.bind fun _ _ => .ok True.intro
  exact (Yields.mapM hPiece).bind fun _ _ => .ok True.intro

/-- A table of clean cells under clean headings is printed. -/
theorem render_yields (terminalWidth : Nat) {columns : List Column}
    (hColumns : ∀ column ∈ columns, Text.joiner ∉ column.heading)
    {rows : List (List Text.Styled)} (h : ∀ row ∈ rows, ∀ cell ∈ row, cell.Clean) :
    Yields (fun _ => True) (render terminalWidth columns rows) := by
  have hHeadings : ∀ cell ∈ (columns.map Column.heading).map Text.Styled.ofText, cell.Clean := by
    intro cell hCell
    obtain ⟨text, hText, rfl⟩ := List.mem_map.mp hCell
    obtain ⟨column, hColumn, rfl⟩ := List.mem_map.mp hText
    exact Text.Styled.clean_ofText (hColumns column hColumn)
  refine (rowLines_yields _ _ _ hHeadings).bind fun _ _ => ?_
  refine (Yields.mapM fun row hRow => rowLines_yields _ _ _ (h row hRow)).bind ?_
  exact fun _ _ => .ok True.intro

end Grid

namespace Pictograph

/-- A text without colons has no codes. -/
theorem replaceCodes_of_no_colon {text : List Char} (h : ':' ∉ text) :
    replaceCodes text = text := by
  induction text with
  | nil => rw [replaceCodes]
  | cons c rest ih =>
      obtain ⟨hFirst, hRest⟩ := not_or.mp (mt List.mem_cons.mpr h)
      rw [replaceCodes]
      simp only [Ne.symm hFirst, false_and, if_false, ih hRest]

/-- A code begins with a colon, so all before the first is kept. -/
theorem replaceCodes_cons_of_ne {c : Char} (h : c ≠ ':') (rest : List Char) :
    replaceCodes (c :: rest) = c :: replaceCodes rest := by
  rw [replaceCodes]
  simp only [h, false_and, if_false]

end Pictograph

namespace Markup

/-- A tag begins with an opening bracket. -/
theorem tagText?_of_ne {c : Char} (rest : List Char) (h : c ≠ '[') :
    tagText? (c :: rest) = none := by
  unfold tagText?
  split
  · next hText =>
      cases hText
      exact absurd rfl h
  · rfl

/-- A text without an opening bracket is one part, with all of its backslashes. -/
theorem tokensFrom_of_plain {text : List Char} (h : '[' ∉ text) (position : Nat)
    (content : List Char) (slashes : Nat) :
    tokensFrom position content slashes text =
      flush (content ++ List.replicate slashes '\\' ++ text) := by
  induction text generalizing position content slashes with
  | nil => simp [tokensFrom]
  | cons c rest ih =>
      obtain ⟨hFirst, hRest⟩ := not_or.mp (mt List.mem_cons.mpr h)
      rw [tokensFrom]
      by_cases hSlash : c = '\\'
      · rw [if_pos hSlash, ih hRest, List.replicate_succ', hSlash]
        simp
      · rw [if_neg hSlash, tagText?_of_ne rest (Ne.symm hFirst)]
        dsimp only
        rw [if_neg (Ne.symm hFirst), ih hRest]
        simp

/-- Parts of a text in open styles can be shown, and no style of theirs has a fault. -/
def ShowsClean (opened : List Opened) (shown tags : Nat) (parts : List Token) : Prop :=
  ∃ styled, showFrom opened shown tags parts = .ok styled ∧ styled.Clean

/-- Plain content between tags is clean if it is so once codes are replaced. -/
theorem ShowsClean.plain {opened : List Opened} {shown tags : Nat} {content : List Char}
    {others : List Token} (hOpened : opened.findSome? Opened.fault = none)
    (hContent : Text.joiner ∉ Pictograph.replaceCodes content)
    (hRest : ∀ shown, ShowsClean opened shown tags others) :
    ShowsClean opened shown tags (.plain content :: others) := by
  obtain ⟨rest, hShown, hClean⟩ :=
    hRest (shown + (Text.sanitized (Pictograph.replaceCodes content)).length)
  unfold ShowsClean
  rw [showFrom, hShown]
  refine ⟨_, rfl, ⟨Text.Showable.append ?_ hClean.glyphs, hClean.bare⟩⟩
  rw [hOpened]
  exact Text.showable_map (fun hMem => hContent (List.mem_filter.mp hMem).1) _

/-- A tag is clean if it can be followed, and ends no style that is wrong. -/
theorem ShowsClean.tag {opened opened' : List Opened} {shown tags position : Nat} {tag : Tag}
    {ended : Option Opened} {others : List Token}
    (hFollow : follow opened shown position tag = .ok (opened', ended))
    (hEnded : ended.bind Opened.fault = none)
    (hRest : ShowsClean opened' shown (tags + 1) others) :
    ShowsClean opened shown tags (.tag position tag :: others) := by
  obtain ⟨rest, hShown, hClean⟩ := hRest
  have hBare : bareFaults shown ended.toList = [] := by
    cases ended with
    | none => rfl
    | some style =>
        have hFault : style.fault = none := hEnded
        simp [bareFaults, hFault]
  unfold ShowsClean
  rw [showFrom, hFollow]
  dsimp only [bind, Except.bind]
  rw [hShown, hBare]
  exact ⟨_, rfl, ⟨hClean.glyphs, hClean.bare⟩⟩

theorem showsClean_flush (shown tags : Nat) {content : List Char}
    (h : Text.joiner ∉ Pictograph.replaceCodes content) :
    ShowsClean [] shown tags (flush content) := by
  have hEnd : ∀ shown, ShowsClean [] shown tags [] :=
    fun shown => ⟨_, rfl, Text.Styled.clean_ofText List.not_mem_nil⟩
  unfold flush
  split
  · exact hEnd shown
  · exact .plain rfl h hEnd

/-- Text without brackets has no tags, so it is rendered as it is. -/
theorem render_of_plain {text : List Char} (h : '[' ∉ text)
    (hJoiner : Text.joiner ∉ Pictograph.replaceCodes text) :
    ∃ styled, render text = .ok styled ∧ styled.Clean := by
  rw [render, tokens, tokensFrom_of_plain h]
  exact showsClean_flush 0 0 hJoiner

/-- A word in red can stand in front of such a text. -/
theorem render_fatal {text : List Char} (h : '[' ∉ text)
    (hJoiner : Text.joiner ∉ Pictograph.replaceCodes text) :
    ∃ styled, render ("[red]fatal[/red] ".toList ++ text) = .ok styled ∧ styled.Clean := by
  have hTokens : tokens ("[red]fatal[/red] ".toList ++ text) =
      .tag 0 ⟨"red".toList, none⟩ :: .plain "fatal".toList ::
        .tag 10 ⟨"/red".toList, none⟩ :: flush (' ' :: text) := by
    simp [tokens, tokensFrom, tagText?, tokensFrom_of_plain h, flush, Tag.parse]
  have hOpen : follow [] 0 0 ⟨"red".toList, none⟩ =
      .ok ([⟨⟨"red".toList, none⟩, 0, none⟩], none) := rfl
  have hClose : ∀ shown, follow [⟨⟨"red".toList, none⟩, 0, none⟩] shown 10
      ⟨"/red".toList, none⟩ = .ok ([], some ⟨⟨"red".toList, none⟩, 0, none⟩) := fun _ => rfl
  rw [render, hTokens]
  have hWord : Text.joiner ∉ Pictograph.replaceCodes "fatal".toList := by
    rw [Pictograph.replaceCodes_of_no_colon (by decide)]
    decide
  have hText : Text.joiner ∉ Pictograph.replaceCodes (' ' :: text) := by
    rw [Pictograph.replaceCodes_cons_of_ne (by decide)]
    exact fun hMem => (List.mem_cons.mp hMem).elim (by decide) hJoiner
  refine ShowsClean.tag hOpen rfl (.plain rfl hWord fun shown => ?_)
  exact .tag (hClose shown) rfl (showsClean_flush shown 2 hText)

end Markup

namespace Report

/-- A text that opens no tag, and in which nothing is joined once its codes for pictographs are
replaced. -/
structure Plain (text : String) : Prop where
  bracket : '[' ∉ text.toList
  joiner : Text.joiner ∉ Pictograph.replaceCodes text.toList

/-- The line for a fault with such a message. -/
theorem fatal_yields {fault : Fault} (h : Plain fault.message) :
    Yields (fun _ => True) (fatal fault) := by
  obtain ⟨styled, hRender, hClean⟩ := Markup.render_fatal h.bracket h.joiner
  rw [fatal, ofMarkup, String.toList_append, hRender]
  exact (Terminal.printed_yields hClean).mapError _

/-- A name holds no joiner. -/
theorem joiner_not_mem_of_isName {name : List Char} (h : GraphQL.isName name = true) :
    Text.joiner ∉ name := by
  have hPart : GraphQL.isNamePart Text.joiner = false := by decide
  have hStart : GraphQL.isNameStart Text.joiner = false := by decide
  cases name with
  | nil => cases h
  | cons c rest =>
      rw [GraphQL.isName, Bool.and_eq_true, List.all_eq_true] at h
      intro hMem
      rcases List.mem_cons.mp hMem with rfl | hRest
      · rw [hStart] at h
        cases h.1
      · have := h.2 _ hRest
        rw [hPart] at this
        cases this

/-- The row of a fragment can be shown if its place can: the name is a name, and the other cells
hold words. -/
theorem cells_yields {fragment : Fragment} (hName : GraphQL.isName fragment.name.toList = true)
    (hPlace : Plain (place fragment.path fragment.templateRange.start)) :
    Yields (fun cells => ∀ cell ∈ cells, cell.Clean) (cells fragment) := by
  obtain ⟨styled, hRender, hClean⟩ := Markup.render_of_plain hPlace.bracket hPlace.joiner
  have hYes : ∀ holds, Text.joiner ∉ yes holds := by decide
  have hType : ∀ queryType : QueryType, Text.joiner ∉ queryType.label.toList := by
    intro queryType
    cases queryType <;> decide
  rw [cells, ofMarkup, hRender]
  refine .ok fun cell hCell => ?_
  simp only [List.mem_cons, List.not_mem_nil, or_false] at hCell
  rcases hCell with rfl | rfl | rfl | rfl | rfl
  · exact Text.Styled.clean_ofText (joiner_not_mem_of_isName hName)
  · exact Text.Styled.clean_ofText (hType _)
  · exact hClean
  · exact Text.Styled.clean_ofText (hYes _)
  · exact Text.Styled.clean_ofText (hYes _)

/-- The table of fragments whose places can be shown. -/
theorem table_yields {fragments : List Fragment}
    (hNames : ∀ fragment ∈ fragments, GraphQL.isName fragment.name.toList = true)
    (hPlaces : ∀ fragment ∈ fragments, Plain (place fragment.path fragment.templateRange.start)) :
    Yields (fun _ => True) (table fragments) := by
  have hColumns : ∀ column ∈ columns, Text.joiner ∉ column.heading := by decide
  have hCells := Yields.mapM fun fragment hFragment =>
    cells_yields (hNames fragment hFragment) (hPlaces fragment hFragment)
  rw [table]
  refine hCells.bind fun rows hRows => ?_
  exact ((Grid.render_yields Terminal.width hColumns hRows).mapError _).bind
    fun _ _ => .ok True.intro

end Report

end ComponentQueries

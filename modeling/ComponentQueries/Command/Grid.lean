import ComponentQueries.Text.Glyph

/-! Tables with ruled lines. A column is as wide as its widest cell as long as the table
fits, and has a space on both sides. -/
namespace ComponentQueries.Grid

structure Column where
  heading : List Char
  /-- Whether its cells may take several lines. -/
  wraps : Bool
  overflow : Text.Overflow

/-- A line through a table: its left end, what runs along, what stands between
two columns, and its right end. -/
structure Rule where
  left : Char
  along : Char
  between : Char
  right : Char

def topRule : Rule := ⟨'┏', '━', '┳', '┓'⟩

def headRule : Rule := ⟨'┡', '━', '╇', '┩'⟩

def bottomRule : Rule := ⟨'└', '─', '┴', '┘'⟩

/-- A line through a table with columns of the given widths. -/
def Rule.render (rule : Rule) (widths : List Nat) : List Char :=
  let pieces := widths.map fun width => List.replicate width rule.along
  rule.left :: List.intercalate [rule.between] pieces ++ [rule.right, '\n']

def total : List Nat → Nat
  | [] => 0
  | width :: others => width + total others

def widest : List Nat → Nat
  | [] => 0
  | width :: others => max width (widest others)

/-- A quotient to the nearest number. A half goes to the even neighbour. -/
def roundedQuotient (n d : Nat) : Nat :=
  let quotient := n / d
  let twice := 2 * (n % d)
  if twice < d ∨ (twice = d ∧ quotient % 2 = 0) then quotient else quotient + 1

/-- Takes `excess` from widths in equal shares. A width that has a limit gives no
more than that, and nothing if its limit is zero. -/
def reduce (excess shares : Nat) : List (Nat × Nat) → List Nat
  | [] => []
  | (width, limit) :: others =>
    if limit = 0 then width :: reduce excess shares others
    else
      let share := min limit (roundedQuotient excess shares)
      (width - share) :: reduce (excess - share) (shares - 1) others

/-- Takes `excess` from widths in equal shares, with a limit for each. -/
def reduced (excess : Nat) (limits : List (Nat × Nat)) : List Nat :=
  reduce excess (limits.countP fun entry => entry.2 ≠ 0) limits

/-- Takes cells from the widest columns that can be narrowed, down to the width
of the next one, until all fit into `room` cells. A width stands with the mark
of a column that can be narrowed. -/
def narrow (room : Nat) : Nat → List (Nat × Bool) → List Nat
  | 0, widths => widths.map (·.1)
  | fuel + 1, widths =>
    let excess := total (widths.map (·.1)) - room
    let candidates := (widths.filter (·.2)).map (·.1)
    let largest := widest candidates
    let second := widest (candidates.filter (· ≠ largest))
    if excess = 0 ∨ largest = second then widths.map (·.1)
    else
      let limit := min excess (largest - second)
      let limits := widths.map fun (width, can) =>
        (width, if can ∧ width = largest then limit else 0)
      narrow room fuel ((reduced excess limits).zip (widths.map (·.2)))

/-- The widths of columns that fit into `room` cells. If the columns that can be
narrowed do not give enough, all columns give. -/
def fittedWidths (room : Nat) (widths : List (Nat × Bool)) : List Nat :=
  let narrowed := narrow room (total (widths.map (·.1))) widths
  let excess := total narrowed - room
  if excess = 0 then narrowed
  else reduced excess (narrowed.map fun width => (width, width))

/-- Number of cells that a text needs, which is that of its longest line in the
wide sense. -/
def neededWidth (cell : List Char) : Nat :=
  widest ((Text.printedLines cell).map Text.cellLength)

def padded (width : Nat) (line : List Text.Glyph) : List Text.Glyph :=
  line ++ List.replicate (width - Text.cellLength (Text.charsOf line)) { char := ' ' }

/-- A line of a cell with a space on both sides. Its stretches are measured one by
one, inside and outside of the spaces. -/
def cellLine (width : Nat) (line : List Text.Glyph) : Except Text.Misfit (List Char) := do
  let inner ← Text.adjusted (width - 2) (Text.stretches (padded (width - 2) line))
  let outer ← Text.adjusted width ([' '] :: inner ++ [[' ']])
  return (← Text.adjusted width outer).flatten

/-- The lines of a cell in a column of the given width. A column without room for
a character has none. -/
def cellLines (column : Column) (width : Nat) (cell : Text.Styled) :
    Except Text.DisplayError (List (List Char)) := do
  if width ≤ 2 then return []
  let lines ← Text.terminalLines (width - 2) column.wraps column.overflow cell
  (lines.mapM (cellLine width)).mapError .misfit

/-- The lines of a cell in a row of `height` lines. The lines of a heading stand
at the bottom, those of another cell at the top. -/
def aligned (heading : Bool) (height width : Nat) (cell : List (List Char)) :
    List (List Char) :=
  let blank := List.replicate (height - cell.length) (List.replicate width ' ')
  if heading then blank ++ cell else cell ++ blank

def rowLines (bar : Char) (heading : Bool) (columns : List (Column × Nat))
    (cells : List Text.Styled) : Except Text.DisplayError (List Char) := do
  let pieces ← (columns.zip cells).mapM fun ((column, width), cell) =>
    return (width, ← cellLines column width cell)
  let height := max 1 (widest (pieces.map fun piece => piece.2.length))
  let lines := pieces.map fun (width, lines) => aligned heading height width lines
  return (List.range height).flatMap fun index =>
    bar :: List.intercalate [bar] (lines.map fun piece => piece.getD index []) ++ [bar, '\n']

/-- A table with a heading and rows, on a terminal of the given width. -/
def render (terminalWidth : Nat) (columns : List Column) (rows : List (List Text.Styled)) :
    Except Text.DisplayError (List Char) := do
  let headings := columns.map Column.heading
  let room := terminalWidth - (columns.length + 1)
  let needed := rows.foldl (fun widths row => (widths.zip row).map fun (width, cell) =>
    max width (neededWidth (Text.charsOf cell.glyphs))) (headings.map neededWidth)
  let limited := (needed.map fun width => min (width + 2) room).zip (columns.map Column.wraps)
  let widths := fittedWidths room limited
  let measured := columns.zip widths
  let head ← rowLines '┃' true measured (headings.map Text.Styled.ofText)
  let body ← rows.mapM (rowLines '│' false measured)
  return topRule.render widths ++ head ++ headRule.render widths ++ body.flatten ++
    bottomRule.render widths

end ComponentQueries.Grid

import ComponentQueries.Text.Blank
import ComponentQueries.Text.CellWidth
import ComponentQueries.Text.Position

/-! The lines of a text around a range, with line numbers and carets, plain or in
colours. -/
namespace ComponentQueries.CodeFrame

/-- The styles of the parts of a frame. -/
inductive Style where
  | plain | marker | gutter
  deriving DecidableEq, Repr

structure Piece where
  style : Style
  content : List Char
  deriving DecidableEq, Repr

/-- Number of lines shown above the marked ones. -/
def linesAbove : Int := 2

def linesBelow : Int := 3

/-- The columns of a line that carry carets. -/
structure Span where
  column : Int
  count : Int
  deriving DecidableEq, Repr

/-- The last line that is marked. -/
def lastMarked (start : Position) (stop : Option Position) : Int :=
  match stop with
  | some stop => stop.line
  | none => start.line

/-- What to underline on a line of the given length between two points. The
first line is marked to its end, the last from its beginning and those between
as a whole, and every marked line has at least one caret. -/
def span? (number : Int) (length : Nat) (start : Position) (stop : Option Position) :
    Option Span :=
  if number < start.line ∨ lastMarked start stop < number then none
  else match stop with
    | none => some ⟨start.column, 1⟩
    | some stop =>
      if start.line = stop.line then
        some ⟨start.column, max (stop.column - start.column) 1⟩
      else if number = start.line then some ⟨start.column, max (length - start.column + 1) 1⟩
      else if number = stop.line then some ⟨1, max (stop.column - 1) 1⟩
      else some ⟨1, max length 1⟩

/-- A line that is shown, with what is underlined on it. -/
structure Row where
  number : Nat
  line : List Char
  span : Option Span
  deriving DecidableEq, Repr

def firstShown (start : Position) : Int :=
  max 1 (start.line - linesAbove)

def lastShown (text : List Char) (start : Position) (stop : Option Position) : Int :=
  min (Text.lines text).length (lastMarked start stop + linesBelow)

def rows (text : List Char) (start : Position) (stop : Option Position) : List Row :=
  let shown (entry : List Char × Nat) : Option Row :=
    let (line, number) := entry
    if firstShown start ≤ number ∧ number ≤ lastShown text start stop then
      some ⟨number, line, span? number line.length start stop⟩
    else none
  ((Text.lines text).zipIdx 1).filterMap shown

def digits (n : Nat) : List Char :=
  Nat.toDigits 10 n

def rightAligned (width n : Nat) : List Char :=
  List.replicate (width - (digits n).length) ' ' ++ digits n

/-- The row of carets under a line, with a message behind it. -/
def caretPieces (width : Nat) (span : Span) (message : Option String) : List Piece :=
  let gutter := '\n' :: ' ' :: ' ' :: List.replicate width ' ' ++ [' ', '|']
  [⟨.gutter, gutter⟩,
   ⟨.plain, ' ' :: List.replicate (span.column - 1).toNat ' '⟩,
   ⟨.marker, List.replicate span.count.toNat '^'⟩] ++
    match message with
    | some message => [⟨.marker, ' ' :: message.toList⟩]
    | none => []

/-- A line with its marker and its number. Nothing follows the number of an
empty line. -/
def linePieces (width : Nat) (row : Row) : List Piece :=
  let marker : Piece := if row.span.isSome then ⟨.marker, ['>', ' ']⟩ else ⟨.plain, [' ', ' ']⟩
  [marker, ⟨.gutter, rightAligned width row.number ++ [' ', '|']⟩] ++
    if row.line = [] then [] else [⟨.plain, ' ' :: row.line⟩]

/-- The pieces of rows, each on lines of its own. A message stands behind the
first carets only. -/
def rowsPieces (width : Nat) (isFirst : Bool) (message : Option String) : List Row → List Piece
  | [] => []
  | row :: others =>
    let lead : List Piece := if isFirst then [] else [⟨.plain, ['\n']⟩]
    match row.span with
    | none => lead ++ linePieces width row ++ rowsPieces width false message others
    | some span =>
      lead ++ linePieces width row ++ caretPieces width span message ++
        rowsPieces width false none others

/-- The pieces of the frame for a range of a text. An empty message counts as
none. -/
def pieces (text : List Char) (start : Position) (stop : Option Position)
    (message : Option String) : List Piece :=
  let width := (digits (lastShown text start stop).toNat).length
  let framed := rowsPieces width true (message.filter (· ≠ "")) (rows text start stop)
  framed.map fun piece => { piece with content := Text.sanitized piece.content }

def plain (pieces : List Piece) : List Char :=
  pieces.flatMap Piece.content

/-- A part of a printed line, or the end of one. -/
inductive Segment where
  | lineBreak
  | run (content : List Char)
  deriving DecidableEq, Repr

def flush (run : List Char) : List Segment :=
  if run = [] then [] else [.run run]

/-- Cuts a text into segments, behind a part of its line and a run that is not
yet complete. A tab becomes spaces and ends a run. The result has the measure at
the end. -/
def segments (measure : Text.Measure) (run : List Char) :
    List Char → List Segment × Text.Measure
  | [] => (flush run, measure)
  | c :: rest =>
    if c = '\n' then
      let (others, final) := segments (.start 0) [] rest
      (flush run ++ .lineBreak :: others, final)
    else if c = '\t' then
      let (width, behind) := measure.tab
      let (others, final) := segments behind [] rest
      (flush (run ++ List.replicate width ' ') ++ others, final)
    else segments (measure.push c) (run ++ [c]) rest

def Style.switch : Style → List Char
  | plain => []
  | marker => "\x1b[1;31m".toList
  | gutter => "\x1b[2m".toList

def reset : List Char := "\x1b[0m".toList

/-- A segment in a style, as it is sent to a terminal. -/
def paint (style : Style) : Segment → List Char
  | .lineBreak => ['\n']
  | .run content =>
    if style = .plain then content else style.switch ++ content ++ reset

/-- The pieces of a frame behind a part of a line, as they are sent to a
terminal. -/
def highlightFrom (measure : Text.Measure) : List Piece → List Char
  | [] => []
  | piece :: others =>
    let (parts, final) := segments measure [] piece.content
    parts.flatMap (paint piece.style) ++ highlightFrom final others

/-- The frame for a range of a text: the lines around it, numbered, with carets
under the range. -/
def render (text : List Char) (start : Position) (stop : Option Position)
    (message : Option String) (highlight : Bool) : String :=
  let pieces := pieces text start stop message
  String.ofList (if highlight then highlightFrom (.start 0) pieces else plain pieces)

end ComponentQueries.CodeFrame

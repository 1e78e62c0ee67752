import ComponentQueries.Text.Bytes

/-! Points and ranges of a text, counted in lines, columns and characters. -/
namespace ComponentQueries

/-- A point of a text. Lines and columns count from one and the offset from
zero, all in characters. A point that a caller hands in may lie outside every
text, so the coordinates are integers. -/
structure Position where
  line : Int
  column : Int
  offset : Int
  deriving DecidableEq, Repr

/-- A stretch of a text. A range without an end marks a single point. -/
structure Range where
  start : Position
  stop : Option Position
  deriving DecidableEq, Repr

namespace Position

def origin : Position := ⟨1, 1, 0⟩

/-- The point after a character that stays on the line. -/
def nextColumn (position : Position) : Position :=
  ⟨position.line, position.column + 1, position.offset + 1⟩

def nextLine (position : Position) : Position :=
  ⟨position.line + 1, 1, position.offset + 1⟩

def after (position : Position) (c : Char) : Position :=
  if c = '\n' then position.nextLine else position.nextColumn

/-- The point reached from `position` by reading `bytes` bytes of a text. A
character that is read in part counts as one column, and nothing lies beyond
the end of the text. -/
def advance (position : Position) : List Char → Nat → Position
  | [], _ => position
  | c :: rest, bytes =>
    if bytes = 0 then position
    else if bytes < c.utf8Size then position.nextColumn
    else (position.after c).advance rest (bytes - c.utf8Size)

end Position

namespace Text

/-- The point of a text that lies `bytes` bytes after its beginning. -/
def positionAt (text : List Char) (bytes : Nat) : Position :=
  Position.origin.advance text bytes

def rangeBetween (text : List Char) (start stop : Nat) : Range :=
  ⟨positionAt text start, some (positionAt text stop)⟩

/-- The lines of a text, without their line feeds. There is always at least
one, and a final line feed is followed by an empty line. -/
def lines : List Char → List (List Char)
  | [] => [[]]
  | c :: rest =>
    if c = '\n' then [] :: lines rest
    else match lines rest with
      | [] => [[c]]
      | line :: others => (c :: line) :: others

/-- The number of characters of lines, with a line feed for each. -/
def sizeOfLines : List (List Char) → Nat
  | [] => 0
  | line :: others => line.length + 1 + sizeOfLines others

/-- The number of characters before a line and column of a text. A line past
the end counts as the line after the last. -/
def offsetOf (text : List Char) (line column : Int) : Int :=
  sizeOfLines ((lines text).take (line - 1).toNat) + column - 1

end Text

end ComponentQueries

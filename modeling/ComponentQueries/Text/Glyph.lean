import ComponentQueries.Text.Numeral
import ComponentQueries.Text.Wrap

/-! Text with styles on its way to a terminal. No style is shown, but one that cannot be
read is an error as long as something of its text is left. -/
namespace ComponentQueries.Text

/-- A character with what matters of its styles. -/
structure Glyph where
  char : Char
  /-- The stretch of text with the same styles. Text without any is stretch zero. -/
  stretch : Nat := 0
  /-- What is wrong with its styles. -/
  fault : Option NumeralError := none
  deriving DecidableEq, Repr

structure Styled where
  glyphs : List Glyph
  /-- What is wrong with styles that no character has, and where they stand. -/
  bare : List (Nat × NumeralError) := []
  deriving DecidableEq, Repr

inductive DisplayError where
  | misfit (reason : Misfit)
  | style (error : NumeralError)
  deriving DecidableEq, Repr

def unstyled (text : List Char) : List Glyph :=
  text.map fun c => { char := c }

def Styled.ofText (text : List Char) : Styled :=
  { glyphs := unstyled text }

def charsOf (glyphs : List Glyph) : List Char :=
  glyphs.map Glyph.char

def glyphLines : List Glyph → List (List Glyph)
  | [] => [[]]
  | glyph :: rest =>
    if glyph.char = '\n' then [] :: glyphLines rest
    else match glyphLines rest with
      | [] => [[glyph]]
      | line :: others => (glyph :: line) :: others

/-- A line in which tabs are spaces, behind a part of it. The spaces have the
styles of the tab. -/
def expandTabs (measure : Measure) : List Glyph → List Glyph
  | [] => []
  | glyph :: rest =>
    if glyph.char = '\t' then
      let (width, behind) := measure.tab
      List.replicate width { glyph with char := ' ' } ++ expandTabs behind rest
    else glyph :: expandTabs (measure.push glyph.char) rest

/-- The parts of a line between increasing positions. The first part begins at
`start`. -/
def divide (start : Nat) : List Nat → List Glyph → List (List Glyph)
  | [], line => [line]
  | position :: others, line =>
    line.take (position - start) :: divide position others (line.drop (position - start))

/-- A line without the white space at its end, as far as it has more than `size`
characters. -/
def trimExcess (size : Nat) (line : List Glyph) : List Glyph :=
  let blank := (line.reverse.takeWhile fun glyph => isBlank glyph.char).length
  line.take (line.length - min blank (line.length - size))

/-- Other characters for a line, with the styles of the places at which they
stand. -/
def replaceChars (line : List Glyph) (chars : List Char) : List Glyph :=
  let kept := (line.zip chars).map fun (glyph, c) => { glyph with char := c }
  kept ++ unstyled (chars.drop line.length)

def fitted (width : Nat) (overflow : Overflow) (line : List Glyph) :
    Except Misfit (List Glyph) := do
  let chars := charsOf line
  if cellLength chars ≤ width then return line
  match overflow with
  | .fold => return replaceChars line (← crop width chars)
  | .ellipsis => return replaceChars line ((← crop (width - 1) chars) ++ ['…'])

/-- The lines that a line takes on a terminal with `width` cells in a row. -/
def screenLines (width : Nat) (wraps : Bool) (overflow : Overflow) (line : List Glyph) :
    Except Misfit (List (List Glyph)) :=
  let line := expandTabs (.start 0) line
  let positions := if wraps then breaks width overflow (charsOf line) else []
  (divide 0 positions line).mapM fun line => fitted width overflow (trimExcess width line)

/-- What is wrong with the styles of a text that takes the given lines. A style
without characters is looked at only if the text is one line without tabs, and
not if the line was cut off before it. -/
def Styled.fault? (styled : Styled) (lines : List (List Glyph)) : Option NumeralError :=
  let bare : List (Nat × NumeralError) := match lines with
    | [line] =>
      if styled.glyphs.any fun glyph => glyph.char == '\t' || glyph.char == '\n' then []
      else styled.bare.filter fun (position, _) =>
        position < line.length || styled.glyphs.length ≤ line.length
    | _ => []
  (lines.flatten.findSome? Glyph.fault).or (bare.head?.map (·.2))

/-- The lines that a text takes on a terminal with `width` cells in a row. -/
def terminalLines (width : Nat) (wraps : Bool) (overflow : Overflow) (styled : Styled) :
    Except DisplayError (List (List Glyph)) :=
  match (glyphLines styled.glyphs).mapM (screenLines width wraps overflow) with
  | .error reason => .error (.misfit reason)
  | .ok lines =>
    match styled.fault? lines.flatten with
    | some error => .error (.style error)
    | none => .ok lines.flatten

def stretches : List Glyph → List (List Char)
  | [] => []
  | glyph :: rest =>
    match rest.head?, stretches rest with
    | some next, first :: others =>
      if next.stretch = glyph.stretch then (glyph.char :: first) :: others
      else [glyph.char] :: first :: others
    | _, others => [glyph.char] :: others

/-- Number of cells of stretches, each measured by itself. -/
def cellsOfStretches : List (List Char) → Nat
  | [] => 0
  | stretch :: others => cellLength stretch + cellsOfStretches others

/-- The first `width` cells of stretches. The last one is cut. -/
def cropStretches (width : Nat) : List (List Char) → Except Misfit (List (List Char))
  | [] => .ok []
  | stretch :: others =>
    if cellLength stretch < width then do
      return stretch :: (← cropStretches (width - cellLength stretch) others)
    else if cellLength stretch = width then .ok [stretch]
    else do return [← crop width stretch]

def limited (width : Nat) (line : List (List Char)) : Except Misfit (List (List Char)) :=
  if cellsOfStretches line ≤ width then .ok line else cropStretches width line

/-- Stretches of `width` cells, with spaces behind them if they have fewer. -/
def adjusted (width : Nat) (line : List (List Char)) : Except Misfit (List (List Char)) := do
  let cells := cellsOfStretches line
  if cells < width then return line ++ [List.replicate (width - cells) ' ']
  limited width line

end ComponentQueries.Text

import ComponentQueries.Text.Glyph
import ComponentQueries.Text.Split

/-! Text on its way to a terminal that shows no styles: control sequences are taken out,
control characters dropped, tabs written as spaces and long lines broken. -/
namespace ComponentQueries.Terminal

/-- Number of cells in a row of the terminal. -/
def width : Nat := 1000

/-- The character that begins a control sequence. -/
def escape : Char := '\x1b'

/-- Number of characters up to the end of a string that is meant for the
terminal itself. -/
def stringSize? : List Char → Option Nat
  | [] => none
  | c :: rest =>
    if c = escape ∧ rest.head? = some '\\' then some 2 else (stringSize? rest).map (· + 1)

/-- Number of characters of a control sequence behind the escape character. -/
def escapeSize? : List Char → Option Nat
  | [] => none
  | c :: rest =>
    if '0' ≤ c ∧ c ≤ '?' then some 1
    else if c = ']' then some ((stringSize? rest).getD 0 + 1)
    else if c = '[' then
      let parameters := (rest.takeWhile fun d => '0' ≤ d ∧ d ≤ '?').length
      let others := rest.drop parameters
      let middle := (others.takeWhile fun d => ' ' ≤ d ∧ d ≤ '/').length
      if (others.drop middle).head?.any fun d => '@' ≤ d ∧ d ≤ '~' then
        some (parameters + middle + 2)
      else none
    else if c = '(' ∨ ('@' ≤ c ∧ c ≤ '_') then some 1
    else none

/-- Tests whether a text begins with a control sequence. -/
def beginsEscape : List Char → Bool
  | [] => false
  | c :: rest => c = escape && (escapeSize? rest).isSome

/-- Reads the numbers of the control sequence at the beginning of a text behind
the escape character, if it sets a style. Something else than digits between two
semicolons counts as no number. -/
def checkStyle (text : List Char) (size : Nat) : Except Text.NumeralError Unit :=
  let sequence := text.take size
  if sequence.head? = some '[' ∧ sequence.getLast? = some 'm' then
    (Text.splitAt ';' (sequence.drop 1).dropLast).forM fun number =>
      if number = [] ∨ ¬ number.all Char.isDigit then .ok ()
      else (Text.integer (String.ofList number)).map fun _ => ()
  else .ok ()

/-- A text without control sequences. The one that selects a character set takes
the next character with it, unless that begins a control sequence. -/
def withoutEscapes (text : List Char) : Except Text.NumeralError (List Char) := do
  match text with
  | [] => return []
  | c :: rest =>
    match if c = escape then escapeSize? rest else none with
    | some size =>
      checkStyle rest size
      let selects := rest.head? = some '(' ∧ ¬ beginsEscape (rest.drop size)
      withoutEscapes (rest.drop (if selects then size + 1 else size))
    | none => return c :: (← withoutEscapes rest)
termination_by text.length

def uncoloured (text : List Char) : Except Text.NumeralError (List Char) := do
  return List.intercalate ['\n'] (← (Text.lines text).mapM withoutEscapes)

/-- What is printed for a text, with the line feed at its end. -/
def printed (styled : Text.Styled) : Except Text.DisplayError (List Char) := do
  let lines ← Text.terminalLines width true .fold styled
  let limited ← (lines.mapM fun line => Text.limited width (Text.stretches line)).mapError .misfit
  return limited.flatMap fun line => line.flatten ++ ['\n']

end ComponentQueries.Terminal

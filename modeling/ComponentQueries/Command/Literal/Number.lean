import ComponentQueries.Command.Literal.Error

/-! Numbers as they are written: integers in four systems, numbers with a point or an
exponent, and imaginary numbers. -/
namespace ComponentQueries.Literal

/-- A number at the beginning of a text: whether it is imaginary, and what follows
it. -/
structure NumberEnd where
  imaginary : Bool
  rest : List Char

/-- What follows digits, behind at least one of them. A single underscore may stand
between two digits. Otherwise the character behind the underscore is the error. -/
def skipDigits (isDigit : Char → Bool) : List Char → Except (Option Char) (List Char)
  | [] => .ok []
  | c :: rest =>
    if isDigit c then skipDigits isDigit rest
    else if c = '_' then
      match rest with
      | [] => .error none
      | next :: others => if isDigit next then skipDigits isDigit others else .error (some next)
    else .ok (c :: rest)

def skipDecimals (text : List Char) : Except Error (List Char) :=
  (skipDigits Char.isDigit text).mapError fun _ => .invalidNumber .decimal

def isWordPart (c : Char) : Bool :=
  c.isAlphanum || c == '_' || 0x80 ≤ c.toNat

/-- Tests whether a text begins with one of the words that may stand directly behind a
number. Of the words of two letters with an i, only the beginning counts. -/
def beginsOperator (text : List Char) : Bool :=
  let word := text.takeWhile isWordPart
  (["and", "else", "for", "or", "not"].map String.toList).contains word ||
    (["if", "in", "is"].map String.toList).any (·.isPrefixOf word)

/-- A number that ends where a text begins. No word in ASCII may begin there, a few
keywords apart. -/
def endNumber (system : NumberSystem) (text : List Char) : Except Error NumberEnd :=
  if (text.head?.any fun c => isWordPart c && c.toNat < 0x80) ∧ ¬ beginsOperator text then
    .error (.invalidNumber system)
  else .ok ⟨system == .imaginary, text⟩

def endReal (text : List Char) : Except Error NumberEnd :=
  match text with
  | [] => endNumber .decimal []
  | c :: rest =>
    if c = 'j' ∨ c = 'J' then endNumber .imaginary rest else endNumber .decimal (c :: rest)

/-- The end of a number that may have an exponent. A letter for an exponent without
digits is no part of the number. -/
def endExponent (text : List Char) : Except Error NumberEnd :=
  match text with
  | [] => endReal []
  | c :: rest =>
    if c = 'e' ∨ c = 'E' then
      match rest with
      | [] => endNumber .decimal (c :: rest)
      | next :: others =>
        if next = '+' ∨ next = '-' then
          if others.head?.any Char.isDigit then do endReal (← skipDecimals others)
          else .error (.invalidNumber .decimal)
        else if next.isDigit then do endReal (← skipDecimals rest)
        else endNumber .decimal (c :: rest)
    else endReal (c :: rest)

def endFraction (text : List Char) : Except Error NumberEnd :=
  if text.head?.any Char.isDigit then do endExponent (← skipDecimals text)
  else endExponent text

def endDecimals (text : List Char) : Except Error NumberEnd :=
  match text with
  | [] => endExponent []
  | c :: rest => if c = '.' then endFraction rest else endExponent (c :: rest)

/-- The error for a character among the digits of a system. -/
def digitError (system : NumberSystem) (c : Option Char) : Error :=
  match c with
  | some digit =>
    if digit.isDigit ∧ system ≠ .hexadecimal then .invalidDigit digit system
    else .invalidNumber system
  | none => .invalidNumber system

/-- The end of a number with the digits of a system, behind the letter that names
the system. -/
def endRadix (system : NumberSystem) (isDigit : Char → Bool) (text : List Char) :
    Except Error NumberEnd :=
  if text.head?.any fun c => isDigit c || c == '_' then
    match skipDigits isDigit text with
    | .error c => .error (digitError system c)
    | .ok rest =>
      match rest.head? with
      | some c =>
        if c.isDigit then .error (digitError system (some c)) else endNumber system rest
      | none => endNumber system rest
  else .error (digitError system text.head?)

def skipZeros : List Char → Except Error (List Char)
  | [] => .ok []
  | c :: rest =>
    if c = '0' then skipZeros rest
    else if c = '_' then
      match rest with
      | [] => .error (.invalidNumber .decimal)
      | next :: others =>
        if next = '0' then skipZeros others
        else if next.isDigit then .ok (next :: others)
        else .error (.invalidNumber .decimal)
    else .ok (c :: rest)

/-- The end of a number behind a zero. Further zeros may follow, but an integer has
no other digit behind them. -/
def endZeros (text : List Char) : Except Error NumberEnd := do
  let zeros ← skipZeros text
  if zeros.head?.any Char.isDigit then
    let rest ← skipDecimals zeros
    if rest.head?.any fun c => c == '.' || c == 'e' || c == 'E' || c == 'j' || c == 'J' then
      endDecimals rest
    else .error .leadingZeros
  else endDecimals zeros

def isHexDigit (c : Char) : Bool :=
  c.isDigit || ('a' ≤ c && c ≤ 'f') || ('A' ≤ c && c ≤ 'F')

/-- The end of the number at the beginning of a text that begins with a digit, or
with a point and a digit. -/
def endOfNumber (text : List Char) : Except Error NumberEnd :=
  match text with
  | [] => endNumber .decimal []
  | c :: rest =>
    if c = '.' then endFraction rest
    else if c = '0' then
      match rest with
      | [] => endZeros []
      | next :: others =>
        if next = 'x' ∨ next = 'X' then endRadix .hexadecimal isHexDigit others
        else if next = 'o' ∨ next = 'O' then
          endRadix .octal (fun c => '0' ≤ c && c ≤ '7') others
        else if next = 'b' ∨ next = 'B' then
          endRadix .binary (fun c => c == '0' || c == '1') others
        else endZeros (next :: others)
    else do endDecimals (← skipDecimals rest)

end ComponentQueries.Literal

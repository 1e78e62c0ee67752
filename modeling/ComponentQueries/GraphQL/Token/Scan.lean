import ComponentQueries.GraphQL.BlockString
import ComponentQueries.GraphQL.SyntaxError
import ComponentQueries.Text.Hex

/-! The scanner. Each reader looks at the text from one place on and tells how many
characters it takes, so faults are placed relative to where a reader began. -/
namespace ComponentQueries.GraphQL

/-- The result of reading at a place of the text. A fault carries its distance
from that place. -/
abbrev Reading (α : Type) := Except (Cause × Nat) α

/-- Moves the fault of a reading that began `distance` characters later. -/
def Reading.later {α : Type} (distance : Nat) : Reading α → Reading α
  | .ok result => .ok result
  | .error (cause, place) => .error (cause, distance + place)

/-- The value of the four hexadecimal digits at the beginning of a text. -/
def fourHexDigits? : List Char → Option Nat
  | a :: b :: c :: d :: _ => do
    let a ← Text.hexValue? a
    let b ← Text.hexValue? b
    let c ← Text.hexValue? c
    let d ← Text.hexValue? d
    some (((a * 16 + b) * 16 + c) * 16 + d)
  | _ => none

/-- Code points that are characters of their own. -/
def isScalar (n : Nat) : Bool :=
  n < 0xD800 || (0xE000 ≤ n && n < 0x110000)

/-- The character of a backslash followed by one character. -/
def simpleEscape? : Char → Option Char
  | '"' => some '"'
  | '\\' => some '\\'
  | '/' => some '/'
  | 'b' => some '\x08'
  | 'f' => some '\x0c'
  | 'n' => some '\n'
  | 'r' => some '\r'
  | 't' => some '\t'
  | _ => none

/-- Reads the digits of an escape with braces up to the closing brace, after
`size` characters from the backslash on. The result is the character, or
nothing if the escape is invalid, with the number of characters looked at. -/
def bracedEscape (point size : Nat) : List Char → Option Char × Nat
  | [] => (none, size)
  | c :: rest =>
    if 12 ≤ size then (none, size)
    else if c = '\x7d' then
      if size + 1 < 5 ∨ !isScalar point then (none, size + 1)
      else (some (Char.ofNat point), size + 1)
    else match Text.hexValue? c with
      | some digit => bracedEscape (point * 16 + digit) (size + 1) rest
      | none => (none, size + 1)

/-- The character of an escape with four digits, and the number of characters
after the backslash. Two escapes together may form one character. -/
def fixedEscape? (rest : List Char) : Option (Char × Nat) := do
  let code ← fourHexDigits? (rest.drop 1)
  if isScalar code then
    some (Char.ofNat code, 5)
  else if code < 0xDC00 ∧ (rest.drop 5).take 2 = ['\\', 'u'] then
    let low ← fourHexDigits? (rest.drop 7)
    if 0xDC00 ≤ low ∧ low < 0xE000 then
      some (Char.ofNat (0x10000 + (code - 0xD800) * 0x400 + (low - 0xDC00)), 11)
    else none
  else none

/-- The character of an escape and the number of characters after the
backslash, where `rest` follows the backslash. -/
def readEscape (rest : List Char) : Except Cause (Char × Nat) :=
  let lexeme (size : Nat) : String := String.ofList ('\\' :: rest.take (size - 1))
  match rest with
  | 'u' :: '\x7b' :: digits =>
    match bracedEscape 0 3 digits with
    | (some c, size) => .ok (c, size - 1)
    | (none, size) => .error (.invalidUnicodeEscape (lexeme size))
  | 'u' :: _ =>
    match fixedEscape? rest with
    | some found => .ok found
    | none => .error (.invalidUnicodeEscape (lexeme 6))
  | c :: _ =>
    match simpleEscape? c with
    | some value => .ok (value, 1)
    | none => .error (.unknownEscape (lexeme 2))
  | [] => .error (.unknownEscape (lexeme 2))

/-- Reads a string after its opening quote. The result is its value and its
number of characters up to the closing quote. -/
def readString (text : List Char) : Reading (List Char × Nat) :=
  match text with
  | [] => .error (.unterminatedString, 0)
  | c :: rest =>
    if c = '"' then .ok ([], 1)
    else if c = '\n' ∨ c = '\r' then .error (.unterminatedString, 0)
    else if c = '\\' then
      match readEscape rest with
      | .error cause => .error (cause, 0)
      | .ok (value, more) => do
        let (values, size) ← Reading.later (1 + more) (readString (rest.drop more))
        return (value :: values, 1 + more + size)
    else do
      let (values, size) ← Reading.later 1 (readString rest)
      return (c :: values, 1 + size)
termination_by text.length

def ontoFirstLine (characters : List Char) : List (List Char) → List (List Char)
  | [] => [characters]
  | line :: others => (characters ++ line) :: others

/-- Reads a block string after its opening delimiter. The result is its raw
lines and its number of characters up to the closing delimiter. -/
def readBlockString : List Char → Reading (List (List Char) × Nat)
  | [] => .error (.unterminatedString, 0)
  | '"' :: '"' :: '"' :: _ => .ok ([[]], 3)
  | '\\' :: '"' :: '"' :: '"' :: rest => do
    let (lines, size) ← Reading.later 4 (readBlockString rest)
    return (ontoFirstLine BlockString.delimiter lines, 4 + size)
  | '\r' :: '\n' :: rest => do
    let (lines, size) ← Reading.later 2 (readBlockString rest)
    return ([] :: lines, 2 + size)
  | c :: rest => do
    let (lines, size) ← Reading.later 1 (readBlockString rest)
    return (if c = '\n' ∨ c = '\r' then [] :: lines else ontoFirstLine [c] lines, 1 + size)

/-- Number of digits at the beginning of a text, which must have some. -/
def readDigits (text : List Char) : Reading Nat :=
  match (text.takeWhile Char.isDigit).length with
  | 0 => .error (.missingDigit text.head?, 0)
  | count => .ok count

/-- Size of the whole part of a number. A zero stands alone. -/
def readWhole : List Char → Reading Nat
  | '0' :: rest =>
    if rest.head?.any Char.isDigit then .error (.digitAfterZero rest.head?, 1) else .ok 1
  | text => readDigits text

/-- Size of the fraction of a number, nothing if there is none. -/
def readFraction : List Char → Reading Nat
  | '.' :: rest => do
    let count ← Reading.later 1 (readDigits rest)
    return 1 + count
  | _ => .ok 0

/-- Size of the exponent of a number, nothing if there is none. -/
def readExponent : List Char → Reading Nat
  | c :: rest =>
    if c = 'e' ∨ c = 'E' then do
      let sign := if rest.head? = some '+' ∨ rest.head? = some '-' then 1 else 0
      let count ← Reading.later (1 + sign) (readDigits (rest.drop sign))
      return 1 + sign + count
    else .ok 0
  | [] => .ok 0

/-- Reads a number. The result is its kind and its size. -/
def readNumber (text : List Char) : Reading (TokenKind × Nat) := do
  let sign := if text.head? = some '-' then 1 else 0
  let whole ← Reading.later sign (readWhole (text.drop sign))
  let afterWhole := sign + whole
  let fraction ← Reading.later afterWhole (readFraction (text.drop afterWhole))
  let afterFraction := afterWhole + fraction
  let exponent ← Reading.later afterFraction (readExponent (text.drop afterFraction))
  let size := afterFraction + exponent
  let next := (text.drop size).head?
  if next.any fun c => c == '.' || isNameStart c then
    throw (.missingDigit next, size)
  return (if fraction + exponent = 0 then .int else .float, size)

/-- What stands at a place of the text: something to skip or a token, with the
number of characters after the first. -/
inductive Lexeme where
  | ignored (more : Nat)
  | token (kind : TokenKind) (value : Option (List Char)) (more : Nat)

/-- Reads what begins with a dot: three dots, or a fault. -/
def readDots (rest : List Char) : Reading Lexeme :=
  match rest with
  | '.' :: '.' :: _ => .ok (.token .spread none 2)
  | '.' :: _ => .error (.twoDots, 0)
  | _ =>
    match rest.takeWhile Char.isDigit with
    | [] => .error (.unexpectedCharacter (some '.'), 0)
    | digits => .error (.numberWithoutWhole (String.ofList digits), 0)

/-- Reads what begins with a double quote: a string or a block string. -/
def readQuoted (rest : List Char) : Reading Lexeme :=
  match rest with
  | '"' :: '"' :: body => do
    let (lines, size) ← Reading.later 3 (readBlockString body)
    return .token .blockString (some (BlockString.value lines)) (2 + size)
  | _ => do
    let (value, size) ← Reading.later 1 (readString rest)
    return .token .string (some value) size

def readLexeme (c : Char) (rest : List Char) : Reading Lexeme :=
  if c = ' ' ∨ c = '\t' ∨ c = ',' ∨ c = '\ufeff' ∨ c = '\n' ∨ c = '\r' then .ok (.ignored 0)
  else if c = '#' then
    .ok (.ignored (rest.takeWhile fun d => d != '\n' && d != '\r').length)
  else if c = '.' then readDots rest
  else if c = '"' then readQuoted rest
  else if c.isDigit ∨ c = '-' then do
    let (kind, size) ← readNumber (c :: rest)
    return .token kind (some ((c :: rest).take size)) (size - 1)
  else if isNameStart c then
    let more := rest.takeWhile isNamePart
    .ok (.token .name (some (c :: more)) more.length)
  else match TokenKind.ofChar? c with
    | some kind => .ok (.token kind none 0)
    | none =>
      .error (if c = '\x27' then .singleQuote else .unexpectedCharacter (some c), 0)

/-- The tokens of a text whose first character has the number `offset`. The
token for the end of the text comes last. -/
def scanFrom (offset : Nat) (text : List Char) : Except SyntaxError (List Token) :=
  match text with
  | [] => .ok [⟨.endOfText, none, offset, []⟩]
  | c :: rest =>
    match readLexeme c rest with
    | .error (cause, place) => .error ⟨cause, offset + place⟩
    | .ok (.ignored more) => scanFrom (offset + (1 + more)) (rest.drop more)
    | .ok (.token kind value more) => do
      let tokens ← scanFrom (offset + (1 + more)) (rest.drop more)
      return ⟨kind, value.map String.ofList, offset, c :: rest.take more⟩ :: tokens
termination_by text.length

def scan (text : List Char) : Except SyntaxError (List Token) :=
  scanFrom 0 text

end ComponentQueries.GraphQL

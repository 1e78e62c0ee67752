import ComponentQueries.Text.Blank
import ComponentQueries.Text.Quoted

/-! Integers written with the decimal digits of any script. -/
namespace ComponentQueries.Text

/-- The digit zero of every script beyond ASCII. The other nine digits follow
it. -/
def scriptZeros : List Nat :=
  [0x660, 0x6F0, 0x7C0, 0x966, 0x9E6, 0xA66, 0xAE6, 0xB66, 0xBE6, 0xC66, 0xCE6, 0xD66, 0xDE6,
   0xE50, 0xED0, 0xF20, 0x1040, 0x1090, 0x17E0, 0x1810, 0x1946, 0x19D0, 0x1A80, 0x1A90, 0x1B50,
   0x1BB0, 0x1C40, 0x1C50, 0xA620, 0xA8D0, 0xA900, 0xA9D0, 0xA9F0, 0xAA50, 0xABF0, 0xFF10,
   0x104A0, 0x10D30, 0x11066, 0x110F0, 0x11136, 0x111D0, 0x112F0, 0x11450, 0x114D0, 0x11650,
   0x116C0, 0x11730, 0x118E0, 0x11950, 0x11C50, 0x11D50, 0x11DA0, 0x16A60, 0x16AC0, 0x16B50,
   0x1D7CE, 0x1D7D8, 0x1D7E2, 0x1D7EC, 0x1D7F6, 0x1E140, 0x1E2F0, 0x1E950, 0x1FBF0]

def digitValue? (c : Char) : Option Nat :=
  if c.isDigit then some (c.toNat - 0x30)
  else if c.toNat < 0x80 then none
  else (scriptZeros.find? fun first => first ≤ c.toNat && c.toNat ≤ first + 9).map (c.toNat - ·)

/-- White space that may surround a numeral. The separators of records are
none. -/
def isNumeralBlank (c : Char) : Bool :=
  isBlank c && !(0x1C ≤ c.toNat && c.toNat ≤ 0x1F)

/-- The digits behind a digit and what follows them. A single underscore may
stand between two digits, and anywhere else it is an error. -/
def moreDigits? : List Char → Option (List Nat × List Char)
  | [] => some ([], [])
  | c :: rest =>
    if c = '_' then
      match rest with
      | [] => none
      | next :: others => (digitValue? next).bind fun digit =>
        (moreDigits? others).map fun (digits, tail) => (digit :: digits, tail)
    else match digitValue? c with
      | some digit => (moreDigits? rest).map fun (digits, tail) => (digit :: digits, tail)
      | none => some ([], c :: rest)

/-- The digits at the beginning of a text, of which there is at least one, and
what follows them. -/
def leadingDigits? : List Char → Option (List Nat × List Char)
  | [] => none
  | c :: rest => (digitValue? c).bind fun digit =>
    (moreDigits? rest).map fun (digits, tail) => (digit :: digits, tail)

def valueOfDigits (digits : List Nat) : Nat :=
  digits.foldl (fun value digit => 10 * value + digit) 0

/-- The largest number of digits that a numeral may have. -/
def maxDigits : Nat := 4300

/-- Why a text is no numeral: it is something else, or it has too many
digits. -/
inductive NumeralError where
  | malformed (text : String)
  | tooLong (digits : Nat)
  deriving DecidableEq, Repr

/-- The text of the error. At most 200 characters of a quoted value are
shown. -/
def NumeralError.message : NumeralError → String
  | malformed text => "invalid literal for int() with base 10: " ++
      String.ofList ((quoted text).toList.take 200)
  | tooLong digits => "Exceeds the limit (" ++ toString maxDigits ++
      " digits) for integer string conversion: value has " ++ toString digits ++
      " digits; use sys.set_int_max_str_digits() to increase the limit"

def signOf : List Char → Int × List Char
  | '-' :: rest => (-1, rest)
  | '+' :: rest => (1, rest)
  | rest => (1, rest)

/-- The value of a decimal numeral: one optional sign and digits of any script,
with white space around them. Too many digits are an error whatever follows
them. -/
def integer (text : String) : Except NumeralError Int :=
  let (sign, unsigned) := signOf (trimStart isNumeralBlank text.toList)
  match leadingDigits? unsigned with
  | none => .error (.malformed text)
  | some (digits, tail) =>
    if maxDigits < digits.length then .error (.tooLong digits.length)
    else if tail.all isNumeralBlank then .ok (sign * valueOfDigits digits)
    else .error (.malformed text)

end ComponentQueries.Text

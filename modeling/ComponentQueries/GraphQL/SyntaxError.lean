import ComponentQueries.GraphQL.Token

/-! The faults of a GraphQL text and their wording. -/
namespace ComponentQueries.GraphQL

/-- What the grammar demands at a place: a kind of token or a certain word. -/
inductive Expectation where
  | token (kind : TokenKind)
  | keyword (word : String)
  deriving DecidableEq, Repr

/-- The way an expectation is named in an error message. -/
def Expectation.description : Expectation → String
  | token kind => kind.description
  | keyword word => "'" ++ word ++ "'"

/-- The reasons for which a text is no GraphQL document. The first nine are
faults of a token, the others of the grammar. A missing character stands for
the end of the text. -/
inductive Cause where
  | singleQuote
  | twoDots
  | numberWithoutWhole (digits : String)
  | unexpectedCharacter (found : Option Char)
  | digitAfterZero (found : Option Char)
  | missingDigit (found : Option Char)
  | unterminatedString
  | unknownEscape (lexeme : String)
  | invalidUnicodeEscape (lexeme : String)
  | unexpectedToken (found : Token)
  | expected (expectation : Expectation) (found : Token)
  | describedShorthand
  | strayDescription
  | variableInConstant (name : String)
  | reservedEnumValue (found : Token)
  | nestedTooDeeply
  deriving DecidableEq, Repr

/-- The way a character is named in an error message: itself if it is a
printable ASCII character, its code point otherwise. -/
def characterDescription : Option Char → String
  | none => "<EOF>"
  | some c =>
    if 0x20 ≤ c.toNat ∧ c.toNat ≤ 0x7E then "'" ++ String.singleton c ++ "'"
    else
      let digits := (Nat.toDigits 16 c.toNat).map Char.toUpper
      "U+" ++ String.ofList (List.replicate (4 - digits.length) '0' ++ digits)

def Cause.description : Cause → String
  | singleQuote =>
    "Unexpected single quote character ('), did you mean to use a double quote (\")?"
  | twoDots => "Unexpected '..', did you mean '...'?"
  | numberWithoutWhole digits =>
    "Invalid number, expected digit before '.', did you mean '0." ++ digits ++ "'?"
  | unexpectedCharacter found => "Unexpected character: " ++ characterDescription found ++ "."
  | digitAfterZero found =>
    "Invalid number, unexpected digit after 0: " ++ characterDescription found ++ "."
  | missingDigit found =>
    "Invalid number, expected digit but got: " ++ characterDescription found ++ "."
  | unterminatedString => "Unterminated string."
  | unknownEscape lexeme => "Invalid character escape sequence: '" ++ lexeme ++ "'."
  | invalidUnicodeEscape lexeme => "Invalid Unicode escape sequence: '" ++ lexeme ++ "'."
  | unexpectedToken found => "Unexpected " ++ found.description ++ "."
  | expected expectation found =>
    "Expected " ++ expectation.description ++ ", found " ++ found.description ++ "."
  | describedShorthand =>
    "Unexpected description, descriptions are not supported on shorthand queries."
  | strayDescription =>
    "Unexpected description, only GraphQL definitions support descriptions."
  | variableInConstant name => "Unexpected variable '$" ++ name ++ "' in constant value."
  | reservedEnumValue found =>
    found.description ++ " is reserved and cannot be used for an enum value."
  | nestedTooDeeply => "Document is nested too deeply. Parsing aborted."

/-- A fault of a GraphQL text, at an offset in characters. -/
structure SyntaxError where
  cause : Cause
  offset : Nat
  deriving DecidableEq, Repr

def errorMessage (description : String) : String :=
  "Syntax Error: " ++ description

def SyntaxError.message (error : SyntaxError) : String :=
  errorMessage error.cause.description

/-- A line and a column of a GraphQL text, both counted from one. -/
structure Location where
  line : Nat
  column : Nat
  deriving DecidableEq, Repr

/-- The location of an offset, seen from the character with the number `index`
on a line that begins at `lineStart`. Lines end at a line feed, a carriage
return or both, and an end counts once its first character lies before the
offset. -/
def locateFrom (offset line lineStart index : Nat) : List Char → Location
  | '\r' :: '\n' :: rest =>
    if offset ≤ index then ⟨line, offset + 1 - lineStart⟩
    else locateFrom offset (line + 1) (index + 2) (index + 2) rest
  | c :: rest =>
    if offset ≤ index then ⟨line, offset + 1 - lineStart⟩
    else if c = '\n' ∨ c = '\r' then locateFrom offset (line + 1) (index + 1) (index + 1) rest
    else locateFrom offset line lineStart (index + 1) rest
  | [] => ⟨line, offset + 1 - lineStart⟩

def locate (text : List Char) (offset : Nat) : Location :=
  locateFrom offset 1 0 0 text

end ComponentQueries.GraphQL

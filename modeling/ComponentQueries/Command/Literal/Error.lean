import ComponentQueries.Text.Quoted

/-! What can be wrong with a text that should spell out a value. -/
namespace ComponentQueries.Literal

inductive NumberSystem where
  | decimal | hexadecimal | octal | binary | imaginary
  deriving DecidableEq, Repr

def NumberSystem.label : NumberSystem → String
  | decimal => "decimal"
  | hexadecimal => "hexadecimal"
  | octal => "octal"
  | binary => "binary"
  | imaginary => "imaginary"

/-- What can be wrong with an escape in a text. -/
inductive EscapeFault where
  | shortByte | shortUnit | shortCode | illegal | malformedName | unknownName
  deriving DecidableEq, Repr

def EscapeFault.message : EscapeFault → String
  | shortByte => "truncated \\xXX escape"
  | shortUnit => "truncated \\uXXXX escape"
  | shortCode => "truncated \\UXXXXXXXX escape"
  | illegal => "illegal Unicode character"
  | malformedName => "malformed \\N character escape"
  | unknownName => "unknown Unicode character name"

inductive Error where
  | invalidDigit (digit : Char) (system : NumberSystem)
  | invalidNumber (system : NumberSystem)
  | leadingZeros
  | openQuotation (triple : Bool) (line : Nat)
  | strangeCharacter (c : Char)
  | invisibleCharacter (c : Char)
  | tooManyBrackets
  | unmatched (bracket : Char)
  | mismatched (closing opening : Char) (line : Option Nat)
  | neverClosed (bracket : Char)
  | badContinuation
  | unexpectedEnd
  | unexpectedIndent
  | syntactic
  | missingComma
  | missingElse
  | missingBrackets (name : List Char)
  | namingOf (kind : String)
  | namingMeant
  | comparisonMeant (kind : String)
  | assignmentTo (kind : String)
  | starred
  | emptyStar
  | doublyStarred
  | unpackingInComprehension
  | bareTarget
  | dictUnpackingInComprehension
  | starredValue
  | missingValue
  | missingColon
  | unpackingBehindKeywords
  | bareGenerator
  | positionBehindKeyword
  | positionBehindUnpacking
  | assignmentInArgument
  | defaultMissing
  | bracketedParameters
  | nothingBeforeSlash
  | secondSlash
  | slashBehindStar
  | commaBeforeStar
  | bareStar
  | starWithDefault
  | secondStar
  | doubleStarWithDefault
  | behindDoubleStar
  | defaultExpected
  | mixedQuotations
  | wideBytes
  | textEscape (first last : Nat) (fault : EscapeFault)
  | bytesEscape (position : Nat)
  | nothingBefore (c : Char)
  | emptyField
  | backslashInField
  | commentInField
  | openTextInField
  | tooManyFieldBrackets
  | unmatchedInField (bracket : Char)
  | mismatchedInField (closing opening : Char)
  | openField
  | singleBrace
  | nestedFields
  | badConversion
  | fieldBehindEnd
  /-- An error inside a field of a formatted text. -/
  | inField (error : Error)
  deriving DecidableEq, Repr

/-- The number of a character in capital hexadecimal digits. -/
def codePoint (c : Char) : String :=
  "U+" ++ String.ofList ((Text.hexPadded 4 c.toNat).map Char.toUpper)

def Error.message : Error → String
  | invalidDigit digit system =>
    "invalid digit '" ++ digit.toString ++ "' in " ++ system.label ++ " literal"
  | invalidNumber system => "invalid " ++ system.label ++ " literal"
  | leadingZeros => "leading zeros in decimal integer literals are not permitted; " ++
      "use an 0o prefix for octal integers"
  | openQuotation triple line => "unterminated " ++ (if triple then "triple-quoted " else "") ++
      "string literal (detected at line " ++ toString line ++ ")"
  | strangeCharacter c => "invalid character '" ++ c.toString ++ "' (" ++ codePoint c ++ ")"
  | invisibleCharacter c => "invalid non-printable character " ++ codePoint c
  | tooManyBrackets => "too many nested parentheses"
  | unmatched bracket => "unmatched '" ++ bracket.toString ++ "'"
  | mismatched closing opening line => "closing parenthesis '" ++ closing.toString ++
      "' does not match opening parenthesis '" ++ opening.toString ++ "'" ++
      ((line.map fun line => " on line " ++ toString line).getD "")
  | neverClosed bracket => "'" ++ bracket.toString ++ "' was never closed"
  | badContinuation => "unexpected character after line continuation character"
  | unexpectedEnd => "unexpected EOF while parsing"
  | unexpectedIndent => "unexpected indent"
  | syntactic => "invalid syntax"
  | missingComma => "invalid syntax. Perhaps you forgot a comma?"
  | missingElse => "expected 'else' after 'if' expression"
  | missingBrackets name => "Missing parentheses in call to '" ++ String.ofList name ++
      "'. Did you mean " ++ String.ofList name ++ "(...)?"
  | namingOf kind => "cannot use assignment expressions with " ++ kind
  | namingMeant => "invalid syntax. Maybe you meant '==' or ':=' instead of '='?"
  | comparisonMeant kind =>
    "cannot assign to " ++ kind ++ " here. Maybe you meant '==' instead of '='?"
  | assignmentTo kind => "cannot assign to " ++ kind
  | starred => "cannot use starred expression here"
  | emptyStar => "Invalid star expression"
  | doublyStarred => "cannot use double starred expression here"
  | unpackingInComprehension => "iterable unpacking cannot be used in comprehension"
  | bareTarget => "did you forget parentheses around the comprehension target?"
  | dictUnpackingInComprehension => "dict unpacking cannot be used in dict comprehension"
  | starredValue => "cannot use a starred expression in a dictionary value"
  | missingValue => "expression expected after dictionary key and ':'"
  | missingColon => "':' expected after dictionary key"
  | unpackingBehindKeywords =>
    "iterable argument unpacking follows keyword argument unpacking"
  | bareGenerator => "Generator expression must be parenthesized"
  | positionBehindKeyword => "positional argument follows keyword argument"
  | positionBehindUnpacking => "positional argument follows keyword argument unpacking"
  | assignmentInArgument =>
    "expression cannot contain assignment, perhaps you meant \"==\"?"
  | defaultMissing => "non-default argument follows default argument"
  | bracketedParameters => "Lambda expression parameters cannot be parenthesized"
  | nothingBeforeSlash => "at least one argument must precede /"
  | secondSlash => "/ may appear only once"
  | slashBehindStar => "/ must be ahead of *"
  | commaBeforeStar => "expected comma between / and *"
  | bareStar => "named arguments must follow bare *"
  | starWithDefault => "var-positional argument cannot have default value"
  | secondStar => "* argument may appear only once"
  | doubleStarWithDefault => "var-keyword argument cannot have default value"
  | behindDoubleStar => "arguments cannot follow var-keyword argument"
  | defaultExpected => "expected default value expression"
  | mixedQuotations => "cannot mix bytes and nonbytes literals"
  | wideBytes => "bytes can only contain ASCII literal characters"
  | textEscape first last fault =>
    "(unicode error) 'unicodeescape' codec can't decode bytes in position " ++ toString first ++
      "-" ++ toString last ++ ": " ++ fault.message
  | bytesEscape position =>
    "(value error) invalid \\x escape at position " ++ toString position
  | nothingBefore c => "f-string: expression required before '" ++ c.toString ++ "'"
  | emptyField => "f-string: empty expression not allowed"
  | backslashInField => "f-string expression part cannot include a backslash"
  | commentInField => "f-string expression part cannot include '#'"
  | openTextInField => "f-string: unterminated string"
  | tooManyFieldBrackets => "f-string: too many nested parenthesis"
  | unmatchedInField bracket => "f-string: unmatched '" ++ bracket.toString ++ "'"
  | mismatchedInField closing opening => "f-string: closing parenthesis '" ++
      closing.toString ++ "' does not match opening parenthesis '" ++ opening.toString ++ "'"
  | openField => "f-string: expecting '\x7d'"
  | singleBrace => "f-string: single '\x7d' is not allowed"
  | nestedFields => "f-string: expressions nested too deeply"
  | badConversion =>
    "f-string: invalid conversion character: expected 's', 'r', or 'a'"
  | fieldBehindEnd => "f-string: unexpected end of string"
  | inField error => "f-string: " ++ error.message

end ComponentQueries.Literal

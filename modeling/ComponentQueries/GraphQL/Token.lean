/-! Lexical tokens of GraphQL. -/
namespace ComponentQueries.GraphQL

/-- The kinds of lexical tokens of a GraphQL document. -/
inductive TokenKind where
  | bang | dollar | ampersand | parenOpen | parenClose | spread | colon | equals | atSign
  | bracketOpen | bracketClose | braceOpen | pipe | braceClose
  | name | int | float | string | blockString | endOfText
  deriving DecidableEq, Repr

namespace TokenKind

def isPunctuator : TokenKind → Bool
  | name | int | float | string | blockString | endOfText => false
  | _ => true

/-- The punctuation of a punctuator, and the word for any other kind. -/
def label : TokenKind → String
  | bang => "!"
  | dollar => "$"
  | ampersand => "&"
  | parenOpen => "("
  | parenClose => ")"
  | spread => "..."
  | colon => ":"
  | equals => "="
  | atSign => "@"
  | bracketOpen => "["
  | bracketClose => "]"
  | braceOpen => "\x7b"
  | pipe => "|"
  | braceClose => "\x7d"
  | name => "Name"
  | int => "Int"
  | float => "Float"
  | string => "String"
  | blockString => "BlockString"
  | endOfText => "<EOF>"

def description (kind : TokenKind) : String :=
  if kind.isPunctuator then "'" ++ kind.label ++ "'" else kind.label

def ofChar? : Char → Option TokenKind
  | '!' => some bang
  | '$' => some dollar
  | '&' => some ampersand
  | '(' => some parenOpen
  | ')' => some parenClose
  | ':' => some colon
  | '=' => some equals
  | '@' => some atSign
  | '[' => some bracketOpen
  | ']' => some bracketClose
  | '\x7b' => some braceOpen
  | '|' => some pipe
  | '\x7d' => some braceClose
  | _ => none

end TokenKind

/-- A lexical token. Its lexeme is the source text from the offset `start` on,
and its value is the text that the lexeme stands for. Punctuators have no
value. -/
structure Token where
  kind : TokenKind
  value : Option String
  start : Nat
  lexeme : List Char
  deriving DecidableEq, Repr

def Token.description (token : Token) : String :=
  match token.value with
  | some value => token.kind.description ++ " '" ++ value ++ "'"
  | none => token.kind.description

def isNameStart (c : Char) : Bool :=
  c.isAlpha || c == '_'

def isNamePart (c : Char) : Bool :=
  c.isAlphanum || c == '_'

def isName : List Char → Bool
  | [] => false
  | c :: rest => isNameStart c && rest.all isNamePart

end ComponentQueries.GraphQL

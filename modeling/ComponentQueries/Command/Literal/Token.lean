import ComponentQueries.Command.Literal.Error

/-! Tokens of expressions. -/
namespace ComponentQueries.Literal

/-- A text in quotes: what the letters in front of it say, and what stands between
the quotes. -/
structure Quotation where
  bytes : Bool
  raw : Bool
  formatted : Bool
  body : List Char
  deriving DecidableEq, Repr

inductive TokenKind where
  | name (text : List Char)
  | keyword (text : String)
  | number (imaginary : Bool)
  | quotation (quotation : Quotation)
  | sign (text : String)
  | newline
  | indent
  | finish
  /-- An error that matters only if the token is read. The bracket that is open
  there stands with its line. -/
  | obstacle (error : Error) (opened : Option (Char × Nat))
  /-- An error that matters in any case. -/
  | broken (error : Error)
  deriving DecidableEq, Repr

/-- A token with the number of brackets that are open behind it, and its line. -/
structure Token where
  kind : TokenKind
  depth : Nat
  line : Nat
  deriving DecidableEq, Repr

def Token.isQuotation (token : Token) : Bool :=
  match token.kind with
  | .quotation _ => true
  | _ => false

def keywords : List String :=
  ["False", "None", "True", "and", "as", "assert", "async", "await", "break", "class",
   "continue", "def", "del", "elif", "else", "except", "finally", "for", "from", "global", "if",
   "import", "in", "is", "lambda", "nonlocal", "not", "or", "pass", "raise", "return", "try",
   "while", "with", "yield"]

/-- The signs of several characters, longer ones first. -/
def longSigns : List String :=
  ["**=", "//=", "<<=", ">>=", "...", "!=", "%=", "&=", "**", "*=", "+=", "-=", "->", "//", "/=",
   ":=", "<<", "<=", "<>", "==", ">=", ">>", "@=", "^=", "|="]

/-- The largest number of brackets that can be open. -/
def maxDepth : Nat := 200

end ComponentQueries.Literal

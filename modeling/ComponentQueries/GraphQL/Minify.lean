import ComponentQueries.GraphQL.Token.Scan

/-! GraphQL texts without white space, commas and comments. -/
namespace ComponentQueries.GraphQL

def Token.minified (token : Token) : List Char :=
  match token.kind, token.value with
  | .blockString, some value => BlockString.render value.toList
  | _, _ => token.lexeme

/-- The texts of tokens, one after another. A space stands in front of a token
that would run into the token before it, which `afterWord` describes. -/
def joinTokens (afterWord : Bool) : List Token → List Char
  | [] => []
  | token :: others =>
    let isWord := !token.kind.isPunctuator
    let separator := if afterWord && (isWord || token.kind == .spread) then [' '] else []
    separator ++ token.minified ++ joinTokens isWord others

/-- A GraphQL text without all that the grammar ignores. -/
def minify (text : List Char) : Except SyntaxError (List Char) :=
  (scan text).map fun tokens => joinTokens false (tokens.filter (·.kind ≠ .endOfText))

end ComponentQueries.GraphQL

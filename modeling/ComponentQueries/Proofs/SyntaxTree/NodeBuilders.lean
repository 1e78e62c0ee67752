import ComponentQueries.SyntaxTree

/-! Nodes as a parser of a text without faults builds them. -/
namespace ComponentQueries

namespace Node

/-- A node with a name in a tree without faults. -/
def phrase (kind : Kind) (start stop : Nat) (field : Option Field) (children : List Node) :
    Node :=
  ⟨kind, true, false, false, start, stop, field, children⟩

/-- A leaf that covers a word of the language. -/
def token (word : String) (start : Nat) : Node :=
  ⟨Kind.ofLabel word, false, false, false, start, start + word.length, none, []⟩

/-- A text between two delimiters. -/
def quoted (kind : Kind) (delimiter : String) (start stop : Nat) (field : Option Field) : Node :=
  phrase kind start stop field [token delimiter start,
    phrase (.other "string_fragment") (start + 1) (stop - 1) none [], token delimiter (stop - 1)]

/-- The statement ``import{graphql}from"gatsby";`` that begins at an offset. -/
def tagImport (start : Nat) : Node :=
  phrase .importStatement start (start + 28) none
    [token "import" start,
      phrase .importClause (start + 6) (start + 15) none
        [phrase .namedImports (start + 6) (start + 15) none
          [token "\x7b" (start + 6),
            phrase .importSpecifier (start + 7) (start + 14) none
              [phrase .identifier (start + 7) (start + 14) (some .name) []],
            token "\x7d" (start + 14)]],
      token "from" (start + 15), quoted .string "\"" (start + 19) (start + 27) (some .source),
      token ";" (start + 27)]

end Node

end ComponentQueries

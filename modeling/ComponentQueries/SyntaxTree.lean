import ComponentQueries.Language
import ComponentQueries.SyntaxTree.Cursor
import ComponentQueries.Text.Position

/-! Syntax trees together with their texts. The parser itself is a parameter. -/
namespace ComponentQueries

structure SyntaxTree where
  root : Node
  text : List Char
  path : String
  language : Language

/-- A parser for the languages of component files. It yields a tree for every
text and marks in it what is wrong. -/
abbrev Grammar := Language → String → Node

def Node.blank : Node := ⟨.program, true, false, false, 0, 0, none, []⟩

/-- The grammar that knows the trees of certain texts and takes any other text
for an empty one. -/
def Grammar.ofTrees (trees : List ((Language × String) × Node)) : Grammar :=
  fun language text => (trees.lookup (language, text)).getD Node.blank

/-- The ways in which a source text can have no tree. -/
inductive ParseFailure where
  | language (error : LanguageError)
  | malformed (location : Option Range)

namespace SyntaxTree

def top (tree : SyntaxTree) : Cursor := Cursor.ofRoot tree.root

def walk (tree : SyntaxTree) : List Cursor := tree.top.walk

def textOf (tree : SyntaxTree) (cursor : Cursor) : String :=
  String.ofList (Text.slice tree.text cursor.node.start cursor.node.stop)

def rangeOf (tree : SyntaxTree) (node : Node) : Range :=
  Text.rangeBetween tree.text node.start node.stop

def stringValue? (tree : SyntaxTree) (cursor : Cursor) : Option String :=
  if cursor.kind = .string then
    some (String.ofList ((tree.textOf cursor).toList.drop 1).dropLast)
  else none

/-- The tree of a text in a language. A text with a fault has none. -/
def parseAs (grammar : Grammar) (language : Language) (text path : String) :
    Except (Option Range) SyntaxTree :=
  let tree : SyntaxTree := ⟨grammar language text, text.toList, path, language⟩
  if tree.root.hasError then .error (tree.root.firstFault?.map tree.rangeOf) else .ok tree

def parseFile (grammar : Grammar) (text path : String) : Except (Option Range) SyntaxTree :=
  parseAs grammar (Language.ofPathOrDefault (PathName.parse path)) text path

/-- The tree of a text in the language with a name, if there is one, and in the
language of its file otherwise. -/
def parse (grammar : Grammar) (text path : String) (name : Option String) :
    Except ParseFailure SyntaxTree :=
  match Language.resolve name (some (PathName.parse path)) with
  | .error error => .error (.language error)
  | .ok language =>
    match parseAs grammar language text path with
    | .error location => .error (.malformed location)
    | .ok tree => .ok tree

end SyntaxTree

end ComponentQueries

import ComponentQueries.Digest.Sha256
import ComponentQueries.GraphQL.Document
import ComponentQueries.Text.Blank
import ComponentQueries.Text.Bytes
import ComponentQueries.Text.Decomposition
import ComponentQueries.Text.Word

/-! Names for definitions that have none, made from the type of the query, the path of
its file and the hash of its text. -/
namespace ComponentQueries

/-- The digest of a fragment's text: 32 bits, in decimal. -/
def fragmentHash (text : String) : String :=
  toString (Digest.Sha256.leadingWord (Text.toBytes text)).toNat

namespace Naming

def slugPunctuation : List Char :=
  "$*_+~.()'\"!-:@".toList

def isSlugChar (c : Char) : Bool :=
  Text.isWord c || Text.isBlank c || slugPunctuation.contains c

/-- Writes each run of white space as one space. -/
def collapseBlanks : List Char → List Char
  | [] => []
  | c :: rest =>
    if Text.isBlank c then
      match collapseBlanks rest with
      | ' ' :: others => ' ' :: others
      | others => ' ' :: others
    else c :: collapseBlanks rest

/-- The slug of a path. The separator of directories is not among the
characters that it keeps. -/
def slug (path : String) : String :=
  let kept := (Text.decompose path.toList).filter isSlugChar
  String.ofList (Text.trim Text.isBlank (collapseBlanks kept))

/-- The word at the beginning of an ASCII text that starts with `c`, nothing if
`c` is no letter or digit. A capital in front of a small letter begins a word
of its own. -/
def firstWord (c : Char) (rest : List Char) : List Char :=
  if c.isUpper then
    let capitals := rest.takeWhile Char.isUpper
    match capitals, rest.dropWhile Char.isUpper with
    | [], tail => c :: tail.takeWhile Char.isLower
    | _, next :: _ => if next.isLower then c :: capitals.dropLast else c :: capitals
    | _, [] => c :: capitals
  else if c.isLower then c :: rest.takeWhile Char.isLower
  else if c.isDigit then c :: rest.takeWhile Char.isDigit
  else []

/-- The words of an ASCII text: runs of small letters with one capital in front
at most, runs of capitals and runs of digits. -/
def words (text : List Char) : List (List Char) :=
  match text with
  | [] => []
  | c :: rest =>
    match firstWord c rest with
    | [] => words rest
    | word => word :: words (rest.drop (word.length - 1))
termination_by text.length

def capitalized : List Char → List Char
  | [] => []
  | c :: rest => c.toUpper :: rest.map Char.toLower

/-- Writes the words of a text together, with capitals at all beginnings but
the first. -/
def camelCase (text : List Char) : List Char :=
  match words ((Text.decompose text).filter (·.toNat < 0x80)) with
  | [] => []
  | first :: others => first.map Char.toLower ++ others.flatMap capitalized

/-- The name for a definition without one, from the type of the query, the path
of its file and the hash of its text. -/
def generatedName (queryType path hash : String) : String :=
  let label := queryType.toList ++ '-' :: (slug path).toList ++ '-' :: hash.toList
  String.ofList (camelCase label)

end Naming

namespace GraphQL

/-- The name of a definition, if it has one that is not empty. -/
def Definition.givenName? (definition : Definition) : Option String :=
  definition.name.filter (· ≠ "")

/-- Definitions that have a place for a name and none in it. -/
def Definition.lacksName (definition : Definition) : Bool :=
  definition.kind.isNamed && definition.givenName?.isNone

def Definition.named (name : String) (definition : Definition) : Definition :=
  if definition.lacksName then { definition with name := some name } else definition

def Document.named (name : String) (document : Document) : Document :=
  ⟨document.definitions.map (Definition.named name)⟩

def Document.lacksName (document : Document) : Bool :=
  document.definitions.any Definition.lacksName

def Document.firstName? (document : Document) : Option String :=
  document.definitions.findSome? Definition.givenName?

end GraphQL

/-- A document in which all definitions have names as far as they can. -/
structure NamedDocument where
  document : GraphQL.Document
  name : String
  autoNamed : Bool

/-- Gives generated names to the definitions of a document that lack one. The
document goes by the name of its first named definition. -/
def NamedDocument.ofDocument (document : GraphQL.Document) (queryType path hash : String) :
    NamedDocument :=
  let generated := Naming.generatedName queryType path hash
  let named := document.named generated
  ⟨named, named.firstName?.getD generated, document.lacksName⟩

end ComponentQueries

import ComponentQueries.Text.CharacterName.Rows
import ComponentQueries.Text.Split

/-! Names of characters. -/
namespace ComponentQueries.Text

/-- Tests whether a name in capital letters stands in a row. -/
def isNameOfRow (name row : List Char) : Bool :=
  let common := row.takeWhile (· != '/')
  common.isPrefixOf name &&
    (splitAt '|' (row.drop (common.length + 1))).contains (name.drop common.length)

/-- Tests whether a text names a character, in letters of either case. -/
def isCharacterName (name : List Char) : Bool :=
  let name := name.map Char.toUpper
  nameRows.any fun row => isNameOfRow name row.toList

end ComponentQueries.Text

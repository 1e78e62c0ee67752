import ComponentQueries.Text.Blank

/-! Texts cut into pieces. -/
namespace ComponentQueries.Text

/-- The pieces of a text between the occurrences of a character. -/
def splitAt (separator : Char) : List Char → List (List Char)
  | [] => [[]]
  | c :: rest =>
    if c = separator then [] :: splitAt separator rest
    else match splitAt separator rest with
      | [] => [[c]]
      | piece :: others => (c :: piece) :: others

def blankSeparated : List Char → List (List Char)
  | [] => []
  | c :: rest =>
    if isBlank c then blankSeparated rest
    else match rest, blankSeparated rest with
      | next :: _, piece :: others => if isBlank next then [c] :: piece :: others
        else (c :: piece) :: others
      | _, others => [c] :: others

end ComponentQueries.Text

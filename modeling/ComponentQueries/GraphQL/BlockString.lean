import ComponentQueries.Text.Position

/-! The value of a block string, which has the common indent removed, and the shortest
block string with a given value. -/
namespace ComponentQueries.GraphQL.BlockString

def isIndent (c : Char) : Bool :=
  c == ' ' || c == '\t'

def isBlankLine (line : List Char) : Bool :=
  line.all isIndent

/-- Number of white space characters at the beginning of a line. -/
def indentOf (line : List Char) : Nat :=
  (line.takeWhile isIndent).length

/-- The smallest indent of the lines that are not blank. -/
def commonIndent? (lines : List (List Char)) : Option Nat :=
  ((lines.filter fun line => !isBlankLine line).map indentOf).min?

/-- Removes the indent that all lines but the first have in common. Without a
line to measure, all white space counts as indent. -/
def dedent : List (List Char) → List (List Char)
  | [] => []
  | first :: others =>
    let remove (line : List Char) : List Char := match commonIndent? others with
      | some indent => line.drop indent
      | none => []
    first :: others.map remove

/-- Lines without the blank ones at either end. -/
def trimBlankLines (lines : List (List Char)) : List (List Char) :=
  ((lines.dropWhile isBlankLine).reverse.dropWhile isBlankLine).reverse

/-- The value of a block string with the given raw lines. -/
def value (rawLines : List (List Char)) : List Char :=
  List.intercalate ['\n'] (trimBlankLines (dedent rawLines))

def delimiter : List Char := ['"', '"', '"']

/-- Writes a backslash in front of each delimiter inside a value. -/
def escape : List Char → List Char
  | '"' :: '"' :: '"' :: rest => '\\' :: '"' :: '"' :: '"' :: escape rest
  | c :: rest => c :: escape rest
  | [] => []

/-- A value needs a line feed in front if its later lines are all indented,
since their indent would be taken for common indent otherwise. -/
def needsLeadingBreak (escaped : List Char) : Bool :=
  match Text.lines escaped with
  | _ :: second :: others =>
    (second :: others).all fun line => match line with
      | [] => true
      | c :: _ => isIndent c
  | _ => false

/-- A value needs a line feed behind if its last character would join the
closing delimiter. -/
def needsTrailingBreak (value escaped : List Char) : Bool :=
  (value.getLast? == some '"' && !(delimiter ++ ['\\']).isPrefixOf escaped.reverse) ||
    value.getLast? == some '\\'

def render (value : List Char) : List Char :=
  let escaped := escape value
  let front := if needsLeadingBreak escaped then ['\n'] else []
  let back := if needsTrailingBreak value escaped then ['\n'] else []
  delimiter ++ front ++ escaped ++ back ++ delimiter

end ComponentQueries.GraphQL.BlockString

/-! Data in the form in which fragments are written for other programs. -/
namespace ComponentQueries

/-- A value of the data format in which fragments are written. -/
inductive JsonText where
  | integer (value : Int)
  | boolean (value : Bool)
  | string (value : String)
  | array (elements : List JsonText)
  | object (fields : List (String × JsonText))

namespace JsonText

/-- A character inside a string. -/
def escape (c : Char) : List Char :=
  if c = '"' ∨ c = '\\' then ['\\', c]
  else if c = '\n' then ['\\', 'n']
  else if c = '\r' then ['\\', 'r']
  else if c = '\t' then ['\\', 't']
  else if c.toNat = 0x08 then ['\\', 'b']
  else if c.toNat = 0x0C then ['\\', 'f']
  else if c.toNat < 0x20 then
    let digits := Nat.toDigits 16 c.toNat
    ['\\', 'u'] ++ List.replicate (4 - digits.length) '0' ++ digits
  else [c]

def quote (text : String) : List Char :=
  '"' :: text.toList.flatMap escape ++ ['"']

def newLine (level : Nat) : List Char :=
  '\n' :: List.replicate (2 * level) ' '

mutual

/-- The text of a value at a level of nesting, two spaces for each level. -/
def render (level : Nat) : JsonText → List Char
  | integer value => (toString value).toList
  | boolean value => (if value then "true" else "false").toList
  | string value => quote value
  | array [] => ['[', ']']
  | array (first :: others) =>
    '[' :: newLine (level + 1) ++ render (level + 1) first ++ renderElements (level + 1) others ++
      newLine level ++ [']']
  | object [] => ['\x7b', '\x7d']
  | object ((key, value) :: others) =>
    '\x7b' :: newLine (level + 1) ++ quote key ++ [':', ' '] ++ render (level + 1) value ++
      renderFields (level + 1) others ++ newLine level ++ ['\x7d']

/-- The text of the elements of an array after the first. -/
def renderElements (level : Nat) : List JsonText → List Char
  | [] => []
  | element :: others =>
    ',' :: newLine level ++ render level element ++ renderElements level others

/-- The text of the fields of an object after the first. -/
def renderFields (level : Nat) : List (String × JsonText) → List Char
  | [] => []
  | (key, value) :: others =>
    ',' :: newLine level ++ quote key ++ [':', ' '] ++ render level value ++
      renderFields level others

end

end JsonText

end ComponentQueries

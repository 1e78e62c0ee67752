import ComponentQueries.Text.Hex
import ComponentQueries.Text.Lowercase
import ComponentQueries.Text.Numeral
import ComponentQueries.Text.Split

/-! Definitions of styles, such as `bold red on white`. Styles are not shown, but two
definitions of one style are the same name. -/
namespace ComponentQueries.Style

/-- The words for attributes. An attribute can have a long and a short word. -/
def attributeWords : List (String × String) :=
  [("bold", "bold"), ("b", "bold"), ("dim", "dim"), ("d", "dim"), ("italic", "italic"),
   ("i", "italic"), ("underline", "underline"), ("u", "underline"), ("blink", "blink"),
   ("blink2", "blink2"), ("reverse", "reverse"), ("r", "reverse"), ("conceal", "conceal"),
   ("c", "conceal"), ("strike", "strike"), ("s", "strike"), ("underline2", "underline2"),
   ("uu", "underline2"), ("frame", "frame"), ("encircle", "encircle"),
   ("overline", "overline"), ("o", "overline")]

/-- The attributes in the order in which a definition names them. -/
def attributes : List String :=
  ["bold", "dim", "italic", "underline", "blink", "blink2", "reverse", "conceal", "strike",
   "underline2", "frame", "encircle", "overline"]

/-- The names of colours, row by row and parted by spaces. -/
def colourRows : List String :=
  ["black red green yellow blue magenta cyan white bright_black bright_red bright_green",
   "bright_yellow bright_blue bright_magenta bright_cyan bright_white grey0 gray0 navy_blue",
   "dark_blue blue3 blue1 dark_green deep_sky_blue4 dodger_blue3 dodger_blue2 green4",
   "spring_green4 turquoise4 deep_sky_blue3 dodger_blue1 green3 spring_green3 dark_cyan",
   "light_sea_green deep_sky_blue2 deep_sky_blue1 spring_green2 cyan3 dark_turquoise",
   "turquoise2 green1 spring_green1 medium_spring_green cyan2 cyan1 dark_red deep_pink4",
   "purple4 purple3 blue_violet orange4 grey37 gray37 medium_purple4 slate_blue3 royal_blue1",
   "chartreuse4 dark_sea_green4 pale_turquoise4 steel_blue steel_blue3 cornflower_blue",
   "chartreuse3 cadet_blue sky_blue3 steel_blue1 pale_green3 sea_green3 aquamarine3",
   "medium_turquoise chartreuse2 sea_green2 sea_green1 aquamarine1 dark_slate_gray2",
   "dark_magenta dark_violet purple light_pink4 plum4 medium_purple3 slate_blue1 yellow4",
   "wheat4 grey53 gray53 light_slate_grey light_slate_gray medium_purple light_slate_blue",
   "dark_olive_green3 dark_sea_green light_sky_blue3 sky_blue2 dark_sea_green3",
   "dark_slate_gray3 sky_blue1 chartreuse1 light_green pale_green1 dark_slate_gray1 red3",
   "medium_violet_red magenta3 dark_orange3 indian_red hot_pink3 medium_orchid3 medium_orchid",
   "medium_purple2 dark_goldenrod light_salmon3 rosy_brown grey63 gray63 medium_purple1 gold3",
   "dark_khaki navajo_white3 grey69 gray69 light_steel_blue3 light_steel_blue yellow3",
   "dark_sea_green2 light_cyan3 light_sky_blue1 green_yellow dark_olive_green2 dark_sea_green1",
   "pale_turquoise1 deep_pink3 magenta2 hot_pink2 orchid medium_orchid1 orange3 light_pink3",
   "pink3 plum3 violet light_goldenrod3 tan misty_rose3 thistle3 plum2 khaki3 light_goldenrod2",
   "light_yellow3 grey84 gray84 light_steel_blue1 yellow2 dark_olive_green1 honeydew2",
   "light_cyan1 red1 deep_pink2 deep_pink1 magenta1 orange_red1 indian_red1 hot_pink",
   "dark_orange salmon1 light_coral pale_violet_red1 orchid2 orchid1 orange1 sandy_brown",
   "light_salmon1 light_pink1 pink1 plum1 gold1 navajo_white1 misty_rose1 thistle1 yellow1",
   "light_goldenrod1 khaki1 wheat1 cornsilk1 grey100 gray100 grey3 gray3 grey7 gray7 grey11",
   "gray11 grey15 gray15 grey19 gray19 grey23 gray23 grey27 gray27 grey30 gray30 grey35 gray35",
   "grey39 gray39 grey42 gray42 grey46 gray46 grey50 gray50 grey54 gray54 grey58 gray58 grey62",
   "gray62 grey66 gray66 grey70 gray70 grey74 gray74 grey78 gray78 grey82 gray82 grey85 gray85",
   "grey89 gray89 grey93 gray93"]

def colours : List (List Char) :=
  colourRows.flatMap fun row => Text.splitAt ' ' row.toList

/-- What stands in the brackets behind the name of a function. -/
def argument? (function : String) (word : List Char) : Option (List Char) :=
  let head := function.toList ++ ['(']
  if head.isPrefixOf word ∧ word.getLast? = some ')' ∧ head.length < word.length then
    some ((word.drop head.length).dropLast)
  else none

/-- Tests whether three decimal numbers between commas are a colour. A number
that is missing is an error. -/
def isMixture (components : List (List Char)) : Except Text.NumeralError Bool := do
  if components.length ≠ 3 then return false
  let values ← components.mapM fun component => Text.integer (String.ofList component)
  return values.all (· ≤ 255)

/-- Tests whether a word in small letters is a colour: a name, a number out of
256, or three parts out of 256 in hexadecimal or in decimal. -/
def isColour (word : List Char) : Except Text.NumeralError Bool :=
  if word = "default".toList ∨ colours.contains word then .ok true
  else match word, argument? "color" word, argument? "rgb" word with
    | '#' :: digits, _, _ =>
      .ok (digits.length = 6 && digits.all fun c => c.isDigit || ('a' ≤ c && c ≤ 'f'))
    | _, some number, _ =>
      .ok (number.all Char.isDigit && (number.length = 1 || number.length = 2 ||
        number.length = 3) && Text.valueOfDigits (number.filterMap Text.digitValue?) ≤ 255)
    | _, none, some parts =>
      if parts ≠ [] ∧ parts.all fun c => c = ',' || (Text.digitValue? c).isSome then
        isMixture (Text.splitAt ',' parts)
      else .ok false
    | _, none, none => .ok false

end ComponentQueries.Style

namespace ComponentQueries

/-- A style: attributes that are on or off, two colours and a link. -/
structure Style where
  switches : List (String × Bool) := []
  colour : Option (List Char) := none
  background : Option (List Char) := none
  link : Option (List Char) := none

namespace Style

def switch (style : Style) (trait : String) (value : Bool) : Style :=
  { style with switches := (trait, value) :: style.switches }

/-- Reads the words of a definition into a style. There is none if a word has no
meaning. -/
def read (style : Style) : List (List Char) → Except Text.NumeralError (Option Style)
  | [] => .ok (some style)
  | spelled :: others =>
    let word := Text.lowercaseFrom [] spelled
    if word = "on".toList then
      match others with
      | [] => .ok none
      | colour :: others => do
        let colour := Text.lowercaseFrom [] colour
        if ← isColour colour then read { style with background := some colour } others
        else return none
    else if word = "not".toList then
      match others with
      | [] => .ok none
      | trait :: others =>
        match attributeWords.lookup (String.ofList trait) with
        | some trait => read (style.switch trait false) others
        | none => .ok none
    else if word = "link".toList then
      match others with
      | [] => .ok none
      | target :: others => read { style with link := some target } others
    else match attributeWords.lookup (String.ofList word) with
      | some trait => read (style.switch trait true) others
      | none => do
        if ← isColour word then read { style with colour := some word } others
        else return none

def words (style : Style) : List (List Char) :=
  let switched (trait : String) : List (List Char) :=
    match style.switches.lookup trait with
    | some true => [trait.toList]
    | some false => ["not".toList, trait.toList]
    | none => []
  attributes.flatMap switched ++ style.colour.toList ++
    (style.background.toList.flatMap fun colour => ["on".toList, colour]) ++
    style.link.toList.flatMap fun target => ["link".toList, target]

/-- The definition of a style in words of a fixed order. -/
def render (style : Style) : List Char :=
  if style.words = [] then "none".toList else List.intercalate [' '] style.words

/-- The name that all definitions of one style have in common. What is no
definition of a style is its own name, in small letters. -/
def normalName (definition : List Char) : Except Text.NumeralError (List Char) := do
  let trimmed := Text.trim Text.isBlank definition
  if trimmed = "none".toList then return trimmed
  match ← read {} (Text.blankSeparated definition) with
  | some style => return style.render
  | none => return Text.lowercaseFrom [] trimmed

/-- What is wrong with a number in the definition of a style. -/
def fault? (definition : List Char) : Option Text.NumeralError :=
  match read {} (Text.blankSeparated definition) with
  | .ok _ => none
  | .error error => some error

end Style

end ComponentQueries

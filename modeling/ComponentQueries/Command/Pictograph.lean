import ComponentQueries.Command.Pictograph.Rows
import ComponentQueries.Text.CellWidth
import ComponentQueries.Text.Hex
import ComponentQueries.Text.Lowercase
import ComponentQueries.Text.Split

/-! Pictographs that are written as names between colons. -/
namespace ComponentQueries.Pictograph

structure Entry where
  name : List Char
  picture : List Char
  /-- Whether it comes in the tones of skin. -/
  toned : Bool
  deriving DecidableEq, Repr

def Entry.parse (entry : List Char) : Entry :=
  let codes := (entry.dropWhile (· != '=')).drop 1
  ⟨entry.takeWhile (· != '='),
   (Text.splitAt '-' codes).map fun code => Char.ofNat (Text.hexNumber code),
   codes.contains '+'⟩

def entries : List Entry :=
  rows.flatMap fun row => (Text.splitAt ' ' row.toList).map Entry.parse

def entry? (name : List Char) : Option Entry :=
  entries.find? fun entry => entry.name == name

/-- The tones of skin, each with the end of the names that ask for it. -/
def tones : List (List Char × Char) :=
  [("_light_skin_tone".toList, Char.ofNat 0x1F3FB),
   ("_medium-light_skin_tone".toList, Char.ofNat 0x1F3FC),
   ("_medium_skin_tone".toList, Char.ofNat 0x1F3FD),
   ("_medium-dark_skin_tone".toList, Char.ofNat 0x1F3FE),
   ("_dark_skin_tone".toList, Char.ofNat 0x1F3FF)]

/-- The character that asks for a sign to be drawn as a text. -/
def textSelector : Char := '\ufe0e'

/-- A pictograph in a tone of skin. The tone takes the place of the selector
behind the first character. -/
def withTone (tone : Char) : List Char → List Char
  | [] => []
  | c :: rest => c :: tone :: if rest.head? = some Text.pictureSelector then rest.drop 1 else rest

def withoutEnd? (ending name : List Char) : Option (List Char) :=
  if ending.isSuffixOf name then some (name.take (name.length - ending.length)) else none

/-- The pictograph of a name, which may end in a tone of skin. -/
def ofName? (name : List Char) : Option (List Char) :=
  match entry? name with
  | some entry => some entry.picture
  | none => tones.findSome? fun (ending, tone) => do
    let entry ← entry? (← withoutEnd? ending name)
    if entry.toned then some (withTone tone entry.picture) else none

/-- The pictograph of a code, which is a name in small letters or capitals and
may end in the way of drawing. -/
def ofCode? (code : List Char) : Option (List Char) :=
  let named (name : List Char) := ofName? (Text.lowercaseFrom [] name)
  match withoutEnd? "-emoji".toList code, withoutEnd? "-text".toList code with
  | some name, _ => (named name).map (· ++ [Text.pictureSelector])
  | none, some name => (named name).map (· ++ [textSelector])
  | none, none => named code

/-- A text with pictographs for the codes between two colons. What stands
between two colons is looked at once, and a colon begins no code if white space
comes before the next colon. -/
def replaceCodes (text : List Char) : List Char :=
  match text with
  | [] => []
  | c :: rest =>
    let code := rest.takeWhile fun d => d != ':' && !Text.isBlank d
    if c = ':' ∧ (rest.drop code.length).head? = some ':' then
      (ofCode? code).getD (':' :: code ++ [':']) ++ replaceCodes (rest.drop (code.length + 1))
    else c :: replaceCodes rest
termination_by text.length

end ComponentQueries.Pictograph

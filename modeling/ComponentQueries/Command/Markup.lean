import ComponentQueries.Command.Literal
import ComponentQueries.Command.Pictograph
import ComponentQueries.Command.Style
import ComponentQueries.Text.Glyph
import ComponentQueries.Text.Word

/-! Texts with tags for styles, such as `[bold]now[/bold]`. The tags are taken out, and a
tag that closes nothing is an error. -/
namespace ComponentQueries.Markup

/-- A tag. What follows an equals sign in it are its parameters. -/
structure Tag where
  name : List Char
  parameters : Option (List Char)
  deriving DecidableEq, Repr

def Tag.parse (text : List Char) : Tag :=
  ⟨text.takeWhile (· != '='),
   if text.contains '=' then some ((text.dropWhile (· != '=')).drop 1) else none⟩

def Tag.render (tag : Tag) : List Char :=
  '[' :: tag.name ++ ((tag.parameters.map ('=' :: ·)).getD []) ++ [']']

inductive Token where
  | plain (content : List Char)
  | tag (position : Nat) (tag : Tag)
  deriving DecidableEq, Repr

/-- What stands between the brackets of a tag at the beginning of a text. A tag
has no opening bracket inside, and begins with a small letter or one of three
signs. -/
def tagText? : List Char → Option (List Char)
  | '[' :: c :: rest =>
    let inner := rest.takeWhile fun d => d != '[' && d != ']'
    if (c.isLower || c == '#' || c == '/' || c == '@') &&
        (rest.drop inner.length).head? == some ']' then some (c :: inner)
    else none
  | _ => none

def flush (content : List Char) : List Token :=
  if content = [] then [] else [.plain content]

/-- The parts of a text from a position on, behind the plain part `content` and
`slashes` backslashes. Of backslashes in front of a tag half are written, and an
odd one makes the tag plain. A backslash in front of another bracket is
dropped. -/
def tokensFrom (position : Nat) (content : List Char) (slashes : Nat) (text : List Char) :
    List Token :=
  let written (count : Nat) := List.replicate count '\\'
  match text with
  | [] => flush (content ++ written slashes)
  | c :: rest =>
    if c = '\\' then tokensFrom (position + 1) content (slashes + 1) rest
    else match tagText? (c :: rest) with
      | some tag =>
        flush content ++ flush (written (slashes / 2)) ++
          (if slashes % 2 = 0 then [.tag position (Tag.parse tag)]
            else [.plain ('[' :: tag ++ [']'])]) ++
          tokensFrom (position + tag.length + 2) [] 0 (rest.drop (tag.length + 1))
      | none =>
        let kept := if c = '[' then slashes - 1 else slashes
        tokensFrom (position + 1) (content ++ written kept ++ [c]) 0 rest
termination_by text.length

def tokens (text : List Char) : List Token :=
  tokensFrom 0 [] 0 text

/-- Why a text with tags cannot be shown. -/
inductive Error where
  /-- A tag closes a style that is not open. -/
  | unmatched (tag : Tag) (position : Nat)
  /-- A tag closes the last style, and none is open. -/
  | nothingOpen (position : Nat)
  /-- The parameters of an action spell out no value. -/
  | badParameters (value parameters : List Char) (failure : Literal.Failure)
  /-- A colour is given by something else than numbers. -/
  | numeral (error : Text.NumeralError)
  deriving DecidableEq, Repr

def Error.message : Error → String
  | unmatched tag position => "closing tag '" ++ String.ofList tag.render ++ "' at position " ++
      toString position ++ " doesn't match any open tag"
  | nothingOpen position =>
    "closing tag '[/]' at position " ++ toString position ++ " has nothing to close"
  | badParameters value parameters (.syntactic error) =>
    "error parsing " ++ Text.quoted (String.ofList value) ++ " in " ++
      Text.quoted (String.ofList parameters) ++ "; " ++ error.message
  | badParameters _ parameters failure =>
    "error parsing " ++ Text.quoted (String.ofList parameters) ++ "; " ++ failure.message
  | numeral error => error.message

/-- The value in the parameters of an action: what stands in brackets behind a
name, or the whole. A name alone has an empty group of values. -/
def actionValue (parameters : List Char) : List Char :=
  let trimmed := Text.trim Text.isBlank parameters
  let value := trimmed.dropWhile fun c => Text.isWord c || c == '.'
  if value = [] then ['(', ')']
  else if value.head? = some '(' ∧ value.getLast? = some ')' ∧ ¬ value.contains '\n' then value
  else trimmed

/-- Ends a style. The parameters of an action are read only then. -/
def close (tag : Tag) : Except Error Unit :=
  match tag.name, tag.parameters with
  | '@' :: _, some parameters =>
    if parameters = [] then .ok ()
    else
      let value := actionValue parameters
      match Literal.check value with
      | .ok () => .ok ()
      | .error failure => .error (.badParameters value parameters failure)
  | _, _ => .ok ()

/-- The name of a style that all its definitions have in common. -/
def normalName (definition : List Char) : Except Error (List Char) :=
  match Style.normalName definition with
  | .ok name => .ok name
  | .error error => .error (.numeral error)

/-- A style that is open: its tag, where it begins in the text that is shown, and
what is wrong with its definition. -/
structure Opened where
  tag : Tag
  start : Nat
  fault : Option Text.NumeralError

/-- What is wrong with the style of a tag. An action is no style. -/
def Tag.fault? (tag : Tag) : Option Text.NumeralError :=
  if tag.name.head? = some '@' then none
  else Style.fault? (tag.name ++ (tag.parameters.map (' ' :: ·)).getD [])

/-- The open styles after a tag, the last one first, and the style that it ends. A
closing tag ends the last style of its name, or the last of all if it has none.
`shown` is the length of the text in front of the tag. -/
def follow (opened : List Opened) (shown position : Nat) (tag : Tag) :
    Except Error (List Opened × Option Opened) :=
  match tag.name with
  | '/' :: definition =>
    if Text.trim Text.isBlank definition = [] then
      match opened with
      | [] => .error (.nothingOpen position)
      | last :: others => do close last.tag; return (others, some last)
    else do
      let name ← normalName (Text.trim Text.isBlank definition)
      match opened.find? fun candidate => candidate.tag.name == name with
      | none => .error (.unmatched tag position)
      | some candidate =>
        close candidate.tag
        return (opened.eraseP fun candidate => candidate.tag.name == name, some candidate)
  | definition => do
    let tag : Tag := ⟨← normalName definition, tag.parameters⟩
    return (⟨tag, shown, tag.fault?⟩ :: opened, none)

/-- The faulty styles among some that end behind `shown` characters and have none
of them. -/
def bareFaults (shown : Nat) (ended : List Opened) : List (Nat × Text.NumeralError) :=
  ended.filterMap fun style =>
    if style.start = shown then style.fault.map fun fault => (shown, fault) else none

/-- The text of parts behind `shown` characters and `tags` tags, in open
styles. -/
def showFrom (opened : List Opened) (shown tags : Nat) : List Token → Except Error Text.Styled
  | [] => .ok ⟨[], bareFaults shown opened⟩
  | .plain content :: others => do
    let text := Text.sanitized (Pictograph.replaceCodes content)
    let stretch := if opened.isEmpty then 0 else tags
    let fault := opened.findSome? Opened.fault
    let rest ← showFrom opened (shown + text.length) tags others
    return { rest with glyphs := text.map (fun c => ⟨c, stretch, fault⟩) ++ rest.glyphs }
  | .tag position tag :: others => do
    let (opened, ended) ← follow opened shown position tag
    let rest ← showFrom opened shown (tags + 1) others
    return { rest with bare := bareFaults shown ended.toList ++ rest.bare }

/-- The text that markup stands for, without its tags and with pictographs for
their codes. -/
def render (text : List Char) : Except Error Text.Styled :=
  showFrom [] 0 0 (tokens text)

end ComponentQueries.Markup

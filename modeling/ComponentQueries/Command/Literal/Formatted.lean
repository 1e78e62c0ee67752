import ComponentQueries.Command.Literal.Escape

/-! Formatted texts, in which fields in braces hold expressions. -/
namespace ComponentQueries.Literal

/-- An error in a formatted text: one of its own, or one of the expression in a
field. -/
inductive FormatError where
  | own (error : Error)
  | nested (error : Error)

/-- How the body of a formatted text is read. -/
structure FormatMode where
  raw : Bool
  testField : List Char → Except Error Unit

/-- The end of a literal part, and what ends it. -/
structure PartEnd where
  part : List Char
  /-- Whether a doubled brace ends it, of which the second is left out. -/
  doubled : Bool
  rest : List Char

/-- The literal part at the beginning of a text, behind the reversed `part`. Inside
a format a brace ends it. Elsewhere a brace stands for itself if it is doubled. -/
def literalPart (raw nested : Bool) (part : List Char) : List Char → Except Error PartEnd
  | [] => .ok ⟨part.reverse, false, []⟩
  | c :: rest =>
    if c = '\\' ∧ ¬ raw then
      match rest with
      | [] => .ok ⟨('\\' :: part).reverse, false, []⟩
      | 'N' :: '\x7b' :: others => named ('\x7b' :: 'N' :: '\\' :: part) others
      | 'N' :: d :: others => literalPart raw nested (d :: 'N' :: '\\' :: part) others
      | d :: others =>
        if d = '\x7b' ∨ d = '\x7d' then brace d ('\\' :: part) others
        else literalPart raw nested (d :: '\\' :: part) others
    else if c = '\x7b' ∨ c = '\x7d' then brace c part rest
    else literalPart raw nested (c :: part) rest
where
  /-- Goes on behind the name of a character. -/
  named (part : List Char) : List Char → Except Error PartEnd
    | [] => .ok ⟨part.reverse, false, []⟩
    | d :: others =>
      if d = '\x7d' then literalPart raw nested (d :: part) others else named (d :: part) others
  /-- Ends a part at a brace. -/
  brace (d : Char) (part others : List Char) : Except Error PartEnd :=
    if nested then .ok ⟨part.reverse, false, d :: others⟩
    else if others.head? = some d then .ok ⟨(d :: part).reverse, true, others.drop 1⟩
    else if d = '\x7d' then .error .singleBrace
    else .ok ⟨part.reverse, false, d :: others⟩

/-- The point inside a field: the expression so far, reversed, the quotes of a text
that is open, and the open brackets. -/
structure FieldState where
  content : List Char := []
  quotes : List Char := []
  opened : List Char := []

def FieldState.push (state : FieldState) (chars : List Char) : FieldState :=
  { state with content := chars.reverse ++ state.content }

def openingOf (c : Char) : Char :=
  if c = ')' then '(' else '\x7b'

def FieldState.endError (state : FieldState) : Error :=
  if state.quotes ≠ [] then .openTextInField
  else match state.opened with
    | bracket :: _ => .unmatchedInField bracket
    | [] => .openField

def FieldState.bracket (state : FieldState) (c : Char) : Except Error FieldState :=
  if c = '(' ∨ c = '\x7b' then
    if maxDepth ≤ state.opened.length then .error .tooManyFieldBrackets
    else .ok { state.push [c] with opened := c :: state.opened }
  else match state.opened with
    | [] => .error (.unmatchedInField c)
    | bracket :: others =>
      if bracket = openingOf c then .ok { state.push [c] with opened := others }
      else .error (.mismatchedInField c bracket)

/-- Reads the expression of a field, up to the character that ends it. -/
def fieldContent (state : FieldState) (text : List Char) :
    Except Error (List Char × List Char) := do
  match text with
  | [] => throw state.endError
  | c :: rest =>
    let tripled := [c, c].isPrefixOf rest
    if c = '\\' then throw .backslashInField
    else if state.quotes ≠ [] then
      if state.quotes = [c] then fieldContent { state.push [c] with quotes := [] } rest
      else if state.quotes = [c, c, c] ∧ tripled then
        fieldContent { state.push [c, c, c] with quotes := [] } (rest.drop 2)
      else fieldContent (state.push [c]) rest
    else if c = '"' ∨ c = '\x27' then
      if tripled then fieldContent { state.push [c, c, c] with quotes := [c, c, c] } (rest.drop 2)
      else fieldContent { state.push [c] with quotes := [c] } rest
    else if c = '(' ∨ c = '\x7b' then fieldContent (← state.bracket c) rest
    else if c = '#' then throw .commentInField
    else if state.opened = [] ∧ rest.head? = some '=' ∧
        (c = '!' ∨ c = '=' ∨ c = '<' ∨ c = '>') then
      fieldContent (state.push [c, '=']) (rest.drop 1)
    else if state.opened = [] ∧ (c = '!' ∨ c = ':' ∨ c = '\x7d' ∨ c = '=') then
      return (state.content.reverse, c :: rest)
    else if c = ')' ∨ c = '\x7d' then fieldContent (← state.bracket c) rest
    else fieldContent (state.push [c]) rest
termination_by text.length

def isFieldBlank (c : Char) : Bool :=
  c == ' ' || c == '\t' || c == '\n' || c == '\x0c'

def skipConversion (text : List Char) : Except Error (List Char) :=
  match text with
  | '!' :: rest =>
    match rest with
    | [] => .error .openField
    | c :: others => if c = 's' ∨ c = 'r' ∨ c = 'a' then .ok others else .error .badConversion
  | _ => .ok text

/-- What follows the sign that shows the text of a field. -/
def skipEquals (text : List Char) : Except Error (List Char) :=
  match text with
  | '=' :: rest =>
    let rest := rest.dropWhile fun c => isFieldBlank c || c == '\x0b' || c == '\r'
    if rest = [] then .error .openField else .ok rest
  | _ => .ok text

/-- Tests the expression of a field, which ends at the first character of `rest`. -/
def checkField (mode : FormatMode) (content rest : List Char) : Except FormatError Unit :=
  if content.all isFieldBlank then
    .error (.own (match rest with
      | '\x7d' :: _ | [] => .emptyField
      | c :: _ => .nothingBefore c))
  else (mode.testField ('(' :: content ++ [')'])).mapError .nested

mutual

/-- Tests the parts of a text, and gives what follows them. A format inside a field
ends at its closing brace. -/
def checkParts (mode : FormatMode) (depth : Nat) :
    Nat → List Char → Except FormatError (List Char)
  | 0, text => .ok text
  | fuel + 1, text => do
    let found ← (literalPart mode.raw (depth ≠ 0) [] text).mapError .own
    unless mode.raw do (checkEscapes 0 found.part).mapError .own
    if found.doubled then checkParts mode depth fuel found.rest
    else match found.rest with
      | '\x7b' :: rest => checkParts mode depth fuel (← checkWhole mode depth fuel rest)
      | rest => return rest

/-- Tests a field behind its opening brace, and gives what follows it. -/
def checkWhole (mode : FormatMode) (depth : Nat) :
    Nat → List Char → Except FormatError (List Char)
  | 0, text => .ok text
  | fuel + 1, text => do
    if 2 ≤ depth then throw (.own .nestedFields)
    let (content, rest) ← (fieldContent {} text).mapError .own
    checkField mode content rest
    let rest ← (skipEquals rest).mapError .own
    let rest ← (skipConversion rest).mapError .own
    let rest ← match rest with
      | ':' :: format =>
        if format = [] then throw (.own .openField)
        else checkParts mode (depth + 1) fuel format
      | _ => pure rest
    match rest with
    | '\x7d' :: others => return others
    | _ => throw (.own .openField)

end

def checkFormatted (mode : FormatMode) (body : List Char) : Except FormatError Unit := do
  let _ ← checkParts mode 0 (2 * body.length + 2) body

end ComponentQueries.Literal

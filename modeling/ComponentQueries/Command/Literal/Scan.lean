import ComponentQueries.Command.Literal.Number
import ComponentQueries.Command.Literal.Token
import ComponentQueries.Text.Identifier

/-! The tokens of a text. -/
namespace ComponentQueries.Literal

/-- The point that a scan has reached: the open brackets with their lines, the
innermost first, the line, and whether the line holds no token. -/
structure ScanState where
  opened : List (Char × Nat) := []
  line : Nat := 1
  blank : Bool := false

def ScanState.token (state : ScanState) (kind : TokenKind) : Token :=
  ⟨kind, state.opened.length, state.line⟩

def ScanState.finish (state : ScanState) : Token :=
  match state.opened with
  | [] => state.token .finish
  | bracket :: _ => state.token (.obstacle (.neverClosed bracket.1) (some bracket))

/-- A step of a scan: the tokens of it, the point behind it, and how many
characters it takes apart from the first. A last step has no point behind it. -/
structure ScanStep where
  tokens : List Token
  behind : Option (ScanState × Nat)

namespace ScanState

def stop (state : ScanState) (error : Error) : ScanStep :=
  ⟨[state.token (.broken error)], none⟩

/-- The step that ends a scan with an error that matters only if it is reached. -/
def halt (state : ScanState) (error : Error) : ScanStep :=
  ⟨[state.token (.obstacle error state.opened.head?)], none⟩

def take (state : ScanState) (kind : TokenKind) (size : Nat) : ScanStep :=
  ⟨[state.token kind], some (state, size)⟩

/-- The step over `size + 1` characters without a token. -/
def skip (state : ScanState) (size : Nat) : ScanStep :=
  ⟨[], some (state, size)⟩

end ScanState

/-- White space between tokens. -/
def isMargin (c : Char) : Bool :=
  c == ' ' || c == '\t' || c == '\x0c'

/-- The column at which the content of a line begins, with the content. A backslash at
the end of a margin joins the next line to it, and the first margin that is not empty
counts. -/
def contentFrom (column : Nat) : List Char → Nat × List Char
  | ' ' :: rest | '\t' :: rest => contentFrom (column + 1) rest
  | '\x0c' :: rest => contentFrom 0 rest
  | '\\' :: '\n' :: rest =>
    let (behind, content) := contentFrom column rest
    (if column = 0 then behind else column, content)
  | content => (column, content)

/-- Tests whether a line holds no token: nothing or only a comment is on it. -/
def beginsBlank (text : List Char) : Bool :=
  (contentFrom 0 text).2.head?.any fun c => c == '#' || c == '\n'

/-- Tests whether a line with a token is not flush with the first. -/
def beginsIndented (text : List Char) : Bool :=
  let (column, content) := contentFrom 0 text
  column != 0 && content.head?.any fun c => c != '#' && c != '\n' && c != '\\'

def ScanState.indentation (state : ScanState) (text : List Char) : List Token :=
  if beginsIndented text then [state.token .indent] else []

/-- The step over a line feed. It is a token unless a bracket is open or the line is
blank. -/
def scanNewline (state : ScanState) (rest : List Char) : ScanStep :=
  let next : ScanState := ⟨state.opened, state.line + 1, beginsBlank rest⟩
  if state.opened ≠ [] then next.skip 0
  else
    let ended := if state.blank then [] else [state.token .newline]
    ⟨ended ++ next.indentation rest, some (next, 0)⟩

/-- The step over a backslash, which joins its line with the next. -/
def scanBackslash (state : ScanState) (rest : List Char) : ScanStep :=
  match rest with
  | '\n' :: others =>
    if others.isEmpty then
      state.halt (state.opened.head?.elim .unexpectedEnd fun bracket => .neverClosed bracket.1)
    else ({ state with line := state.line + 1 } : ScanState).skip 1
  | _ => state.halt .badContinuation

/-- Number of characters up to the end of a quotation with `wanted` quotes on each
side, behind `run` closing quotes. -/
def quotationSize? (quote : Char) (wanted run : Nat) : List Char → Option Nat
  | [] => none
  | c :: rest =>
    if c = quote then
      if run + 1 = wanted then some 1
      else (quotationSize? quote wanted (run + 1) rest).map (· + 1)
    else if c = '\n' ∧ wanted = 1 then none
    else if c = '\\' then
      match rest with
      | [] => none
      | _ :: others => (quotationSize? quote wanted 0 others).map (· + 2)
    else (quotationSize? quote wanted 0 rest).map (· + 1)

/-- The line on which a quotation without an end is noticed. -/
def noticedLine (line : Nat) (wanted : Nat) : List Char → Nat
  | [] => line
  | c :: rest =>
    if c = '\n' then if wanted = 1 then line else noticedLine (line + 1) wanted rest
    else if c = '\\' then
      match rest with
      | [] => line
      | next :: others => noticedLine (if next = '\n' then line + 1 else line) wanted others
    else noticedLine line wanted rest

/-- The step over a quotation behind letters that say what it is. -/
def scanQuotation (state : ScanState) (letters : List Char) (quote : Char)
    (rest : List Char) : ScanStep :=
  let has (c : Char) : Bool := letters.any fun d => d == c || d == c.toUpper
  let kind (body : List Char) : TokenKind := .quotation ⟨has 'b', has 'r', has 'f', body⟩
  let wanted := if [quote, quote].isPrefixOf rest then 3 else 1
  let text := rest.drop (wanted - 1)
  match quotationSize? quote wanted 0 text with
  | none => state.stop (.openQuotation (wanted = 3) (noticedLine state.line wanted text))
  | some size =>
    let body := text.take (size - wanted)
    let behind := { state with line := state.line + body.countP (· == '\n') }
    ⟨[state.token (kind body)], some (behind, letters.length + (wanted - 1) + size)⟩

/-- Number of letters in front of a quotation at the beginning of a text. -/
def letterCount? (text : List Char) : Option Nat :=
  let letters := text.takeWhile Char.isAlpha
  let known := ["b", "u", "r", "f", "br", "rb", "fr", "rf"].map String.toList
  if known.contains (letters.map Char.toLower) ∧
      ((text.drop letters.length).head?.any fun c => c == '"' || c == '\x27') then
    some letters.length
  else none

/-- The character of a word that can be none of an identifier. -/
def strangerIn? : List Char → Option Char
  | [] => none
  | c :: rest =>
    if Text.isIdentifierStart c then rest.find? fun d => !Text.isIdentifierPart d else some c

def scanWord (state : ScanState) (word : List Char) : ScanStep :=
  match strangerIn? word with
  | some c =>
    state.stop (if Text.isPrintable c then .strangeCharacter c else .invisibleCharacter c)
  | none =>
    let text := String.ofList word
    state.take (if keywords.contains text then .keyword text else .name word) (word.length - 1)

def scanNumber (state : ScanState) (text : List Char) : ScanStep :=
  match endOfNumber text with
  | .error error => state.stop error
  | .ok number =>
    state.take (.number number.imaginary) (text.length - number.rest.length - 1)

def scanOpening (state : ScanState) (c : Char) : ScanStep :=
  if maxDepth ≤ state.opened.length then state.stop .tooManyBrackets
  else
    let inside := { state with opened := (c, state.line) :: state.opened }
    inside.take (.sign c.toString) 0

def scanClosing (state : ScanState) (c opening : Char) : ScanStep :=
  match state.opened with
  | [] => state.stop (.unmatched c)
  | (bracket, line) :: others =>
    if bracket = opening then
      ({ state with opened := others } : ScanState).take (.sign c.toString) 0
    else state.stop (.mismatched c bracket (if line = state.line then none else some line))

def scanSign (state : ScanState) (c : Char) (rest : List Char) : ScanStep :=
  match longSigns.find? fun sign => sign.toList.isPrefixOf (c :: rest) with
  | some sign => state.take (.sign sign) (sign.length - 1)
  | none =>
    if c = '(' ∨ c = '\x7b' then scanOpening state c
    else if c = ')' then scanClosing state c '('
    else if c = '\x7d' then scanClosing state c '\x7b'
    else if Text.isPrintable c then state.take (.sign c.toString) 0
    else state.stop (.invisibleCharacter c)

/-- The first step of a scan over the text `c :: rest`. -/
def scanStep (state : ScanState) (c : Char) (rest : List Char) : ScanStep :=
  if isMargin c then state.skip 0
  else if c = '#' then state.skip (rest.takeWhile (· != '\n')).length
  else if c = '\n' then scanNewline state rest
  else if c = '\\' then scanBackslash state rest
  else if c = '"' ∨ c = '\x27' then scanQuotation state [] c rest
  else if c.isDigit ∨ (c = '.' ∧ rest.head?.any Char.isDigit) then scanNumber state (c :: rest)
  else if isWordPart c then
    match letterCount? (c :: rest) with
    | some count =>
      let behind := (c :: rest).drop count
      scanQuotation state ((c :: rest).take count) (behind.headD '"') (behind.drop 1)
    | none => scanWord state (c :: rest.takeWhile isWordPart)
  else scanSign state c rest

def scanFrom (state : ScanState) (text : List Char) : List Token :=
  match text with
  | [] => [state.finish]
  | c :: rest =>
    let step := scanStep state c rest
    match step.behind with
    | none => step.tokens
    | some (state, size) => step.tokens ++ scanFrom state (rest.drop size)
termination_by text.length

def unifyLines : List Char → List Char
  | [] => []
  | '\r' :: '\n' :: rest => '\n' :: unifyLines rest
  | '\r' :: rest => '\n' :: unifyLines rest
  | c :: rest => c :: unifyLines rest

def scan (text : List Char) : List Token :=
  let text := unifyLines text
  let state : ScanState := { blank := beginsBlank text }
  state.indentation text ++ scanFrom state text

end ComponentQueries.Literal

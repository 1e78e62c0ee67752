import ComponentQueries.Command.Grid
import ComponentQueries.Command.Json
import ComponentQueries.Command.Markup
import ComponentQueries.Command.Terminal
import ComponentQueries.Diagnostic
import ComponentQueries.Extraction

/-! What the commands print: a table or data for fragments, and some lines for each
diagnostic. -/
namespace ComponentQueries.Report

inductive Error where
  /-- Its markup is wrong. -/
  | markup (error : Markup.Error)
  /-- It has no form on a terminal. -/
  | display (error : Text.DisplayError)
  /-- A control sequence in it has a number that is too long. -/
  | sequence (error : Text.NumeralError)
  deriving DecidableEq, Repr

def Error.message : Error → String
  | markup error => error.message
  | display (.misfit reason) => reason.message
  | display (.style error) | sequence error => error.message

def ofMarkup (text : String) : Except Error Text.Styled :=
  (Markup.render text.toList).mapError .markup

def printed (text : Text.Styled) : Except Error (List Char) :=
  (Terminal.printed text).mapError .display

def columns : List Grid.Column :=
  [⟨"name".toList, false, .ellipsis⟩, ⟨"type".toList, true, .ellipsis⟩,
   ⟨"location".toList, true, .fold⟩, ⟨"hook".toList, true, .ellipsis⟩,
   ⟨"auto-named".toList, true, .ellipsis⟩]

def place (path : String) (position : Position) : String :=
  path ++ ":" ++ toString position.line ++ ":" ++ toString position.column

def yes (holds : Bool) : List Char :=
  if holds then "yes".toList else []

/-- The cells of a fragment. The place is taken for markup. -/
def cells (fragment : Fragment) : Except Error (List Text.Styled) := do
  let place ← ofMarkup (place fragment.path fragment.templateRange.start)
  return [.ofText fragment.name.toList, .ofText fragment.queryType.label.toList, place,
    .ofText (yes fragment.isHook), .ofText (yes fragment.isAutoNamed)]

def table (fragments : List Fragment) : Except Error (List Char) := do
  let rows ← fragments.mapM cells
  let grid ← (Grid.render Terminal.width columns rows).mapError .display
  return grid ++ ("(" ++ toString fragments.length ++ " fragments)\n").toList

/-- A position as data. -/
def positionData (position : Position) : JsonText :=
  .object [("line", .integer position.line), ("column", .integer position.column),
    ("offset", .integer position.offset)]

def fragmentData (fragment : Fragment) : JsonText :=
  let range := fragment.templateRange
  .object [("file_path", .string fragment.path), ("name", .string fragment.name),
    ("text", .string fragment.text), ("hash", .string fragment.hash),
    ("template_loc", .object [("start", positionData range.start),
      ("end", positionData (range.stop.getD range.start))]),
    ("location_key",
      .array [.integer fragment.locationKey.1, .integer fragment.locationKey.2]),
    ("is_static_query", .boolean (fragment.queryType = .static)),
    ("is_hook", .boolean fragment.isHook),
    ("is_config_query", .boolean (fragment.queryType = .config)),
    ("is_auto_named", .boolean fragment.isAutoNamed)]

def json (fragments : List Fragment) : List Char :=
  JsonText.render 0 (.array (fragments.map fragmentData)) ++ ['\n']

/-- The first line for a diagnostic: its number, kind and place. It is markup. -/
def heading (diagnostic : Diagnostic) : Except Error (List Char) := do
  let location := match diagnostic.location with
    | some range => place diagnostic.path range.start
    | none => diagnostic.path
  printed (← ofMarkup ("[red]error[/red] [bold]" ++ diagnostic.errorId ++ "[/bold] " ++
    diagnostic.label ++ " " ++ location))

/-- What is printed for the message of a source, if there is any. -/
def message (diagnostic : Diagnostic) : Except Error (List Char) :=
  match (diagnostic.sourceMessage.getD "").toList with
  | [] => .ok []
  | message => printed (.ofText (Text.sanitized (Pictograph.replaceCodes message)))

def frame (diagnostic : Diagnostic) : Except Error (List Char) := do
  match (diagnostic.codeFrame.getD "").toList with
  | [] => return []
  | frame =>
    let text ← (Terminal.uncoloured frame).mapError .sequence
    printed (.ofText (Text.sanitized text))

/-- What is printed in steps, up to the first that fails. -/
def printSteps : List (Except Error (List Char)) → List Char × Option Error
  | [] => ([], none)
  | .error error :: _ => ([], some error)
  | .ok text :: others =>
    let (rest, error) := printSteps others
    (text ++ rest, error)

/-- What is printed for diagnostics: a heading, the message of the source and a
code frame for each. -/
def diagnostics (diagnostics : List Diagnostic) : List Char × Option Error :=
  printSteps (diagnostics.flatMap fun diagnostic =>
    [heading diagnostic, message diagnostic, frame diagnostic])

def fatal (fault : Fault) : Except Error (List Char) := do
  printed (← ofMarkup ("[red]fatal[/red] " ++ fault.message))

def watching (directory : PathName) : Except Error (List Char) := do
  printed (← ofMarkup ("[green]Watching[/green] " ++ directory.render ++ " (Ctrl+C to stop)"))

end ComponentQueries.Report

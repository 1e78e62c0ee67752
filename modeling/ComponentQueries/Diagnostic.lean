import ComponentQueries.CodeFrame
import ComponentQueries.Fault

/-! The report of a failure, with the place in the file that it concerns. -/
namespace ComponentQueries

/-- The point of a file at a location of a GraphQL text that begins at
`templateStart`. Only the first line of the text shares its line with what
stands before it. -/
def positionInFile (text : List Char) (templateStart : Position) (line column : Int) : Position :=
  let fileLine := templateStart.line + line - 1
  let fileColumn := (if line = 1 then templateStart.column - 1 else 0) + column
  ⟨fileLine, fileColumn, Text.offsetOf text fileLine fileColumn⟩

/-- The report of a failure. A report without a kind is that of somebody else's
code. -/
structure Diagnostic where
  errorId : String
  kind : Option FaultKind
  path : String
  location : Option Range
  codeFrame : Option String
  sourceMessage : Option String
  context : List (String × Option String)
  deriving DecidableEq, Repr

namespace Diagnostic

def defaultErrorId : String := "85915"

/-- The number that faults of a kind are reported under. -/
def kindErrorId : FaultKind → String
  | .unreadable => "85913"
  | .unparsable => "85911"
  | .interpolation => "85916"
  | .emptyFragment => "85917"
  | .fragmentSyntax => "85918"
  | .exportNotAsync => "85929"
  | .ambientTag => defaultErrorId

def label (diagnostic : Diagnostic) : String :=
  match diagnostic.kind with
  | some kind => kind.label
  | none => "unknown"

/-- The place of a fault in a file. An error inside a query is placed where the
file has it, and an export is placed where it begins. -/
def placeOf (fault : Fault) (text : Option (List Char)) : Option Range :=
  match fault.kind with
  | .unreadable | .ambientTag => none
  | .unparsable | .interpolation | .emptyFragment => fault.location?
  | .exportNotAsync => fault.location?.map fun range => ⟨range.start, some range.start⟩
  | .fragmentSyntax =>
    match text, fault.location?, fault.fragmentError?.bind FragmentError.location with
    | some text, some range, some location =>
      some ⟨positionInFile text range.start location.line location.column, none⟩
    | _, _, _ => fault.location?

/-- What is reported as the message of the source of a fault. -/
def sourceMessageOf (fault : Fault) : Option String :=
  match fault.kind with
  | .unreadable => some fault.cause
  | .ambientTag => some fault.message
  | .fragmentSyntax => some ((fault.fragmentError?.map FragmentError.message).getD fault.message)
  | .unparsable | .interpolation | .emptyFragment | .exportNotAsync => none

def contextOf (fault : Fault) (path : String) : List (String × Option String) :=
  match fault.kind with
  | .unreadable => [("filePath", some path), ("error", some fault.cause)]
  | .unparsable | .ambientTag => [("filePath", some path)]
  | .exportNotAsync => [("exportName", fault.exportName?)]
  | .interpolation | .emptyFragment | .fragmentSyntax => []

/-- The report of a fault in a file. There is a code frame if the text of the
file is known and the fault has a place in it. -/
def ofFault (fault : Fault) (text : Option (List Char)) (path : String) (highlight : Bool) :
    Diagnostic :=
  let location := placeOf fault text
  let message := if fault.kind = .fragmentSyntax then sourceMessageOf fault else none
  let frame (text : List Char) (range : Range) : String :=
    CodeFrame.render text range.start range.stop message highlight
  { errorId := (fault.errorId?.filter (· ≠ "")).getD (kindErrorId fault.kind)
    kind := some fault.kind
    path
    location
    codeFrame := text.bind fun text => location.map (frame text)
    sourceMessage := sourceMessageOf fault
    context := contextOf fault path }

def ofFailure (failure : Failure) (text : Option (List Char)) (path : String)
    (highlight : Bool) : Diagnostic :=
  match failure with
  | .fault fault => ofFault fault text path highlight
  | .foreign message =>
    { errorId := defaultErrorId
      kind := none
      path
      location := none
      codeFrame := none
      sourceMessage := some message
      context := [("filePath", some path)] }

end Diagnostic

end ComponentQueries

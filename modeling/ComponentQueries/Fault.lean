import ComponentQueries.GraphQL.SyntaxError
import ComponentQueries.Text.Position

/-! What can go wrong with a file. The wording of each fault is here, its report
elsewhere. -/
namespace ComponentQueries

inductive FaultKind where
  | unreadable | unparsable | interpolation | emptyFragment | fragmentSyntax | exportNotAsync
  | ambientTag
  deriving DecidableEq, Repr

def FaultKind.label : FaultKind → String
  | unreadable => "read_error"
  | unparsable => "parse_error"
  | interpolation => "interpolation_not_allowed"
  | emptyFragment => "empty_fragment"
  | fragmentSyntax => "fragment_syntax"
  | exportNotAsync => "export_not_async"
  | ambientTag => "deprecated_ambient_tag"

/-- A fault of this kind ends the whole run, any other that of its file. -/
def FaultKind.isFatal (kind : FaultKind) : Bool :=
  kind == ambientTag

/-- What is wrong with a GraphQL text, and where in the text if that is known. -/
structure FragmentError where
  message : String
  location : Option GraphQL.Location
  deriving DecidableEq, Repr

def FragmentError.ofSyntaxError (text : List Char) (error : GraphQL.SyntaxError) :
    FragmentError :=
  ⟨error.message, some (GraphQL.locate text error.offset)⟩

/-- The ways in which reading, parsing or extracting a file can fail. -/
inductive Fault where
  /-- The file is missing, is no file, or is no text. -/
  | unreadable (path cause : String)
  /-- The file is not written in its language. -/
  | unparsable (path : String) (location : Option Range) (errorId : String)
  /-- A query is put together from several parts. -/
  | interpolation (location : Range)
  /-- A query says nothing. -/
  | emptyFragment (location : Option Range)
  /-- A query is no GraphQL document. The location is that of the whole query. -/
  | fragmentSyntax (text : String) (error : FragmentError) (location : Range)
  /-- An export that holds a query is not asynchronous. -/
  | exportNotAsync (name : String) (location : Range)
  /-- The tag of a query comes from nowhere. -/
  | ambientTag (path : String)
  /-- A fault that somebody else describes. -/
  | described (kind : FaultKind) (message : String) (location : Option Range)
      (exportName errorId : Option String)
  deriving DecidableEq, Repr

namespace Fault

def kind : Fault → FaultKind
  | unreadable .. => .unreadable
  | unparsable .. => .unparsable
  | interpolation .. => .interpolation
  | emptyFragment .. => .emptyFragment
  | fragmentSyntax .. => .fragmentSyntax
  | exportNotAsync .. => .exportNotAsync
  | ambientTag .. => .ambientTag
  | described kind .. => kind

def message : Fault → String
  | unreadable path cause => "Could not read " ++ path ++ ": " ++ cause
  | unparsable path _ _ => "Could not parse " ++ path
  | interpolation _ => "String interpolations are not allowed in graphql fragments."
  | emptyFragment _ => "Empty graphql tag"
  | fragmentSyntax text error _ =>
    "GraphQL syntax error in query:\n\n" ++ text ++ "\n\nmessage:\n\n" ++ error.message
  | exportNotAsync name _ =>
    "The \"" ++ name ++ "\" export must be async when using it with graphql"
  | ambientTag path =>
    "Using the global `graphql` tag for queries isn't supported.\n" ++
      "Import it instead like:  import \x7b graphql \x7d from 'gatsby' in file:\n" ++ path
  | described _ message _ _ _ => message

def path? : Fault → Option String
  | unreadable path _ | unparsable path _ _ | ambientTag path => some path
  | _ => none

def location? : Fault → Option Range
  | unparsable _ location _ | emptyFragment location | described _ _ location _ _ => location
  | interpolation location | fragmentSyntax _ _ location | exportNotAsync _ location =>
    some location
  | unreadable .. | ambientTag _ => none

def exportName? : Fault → Option String
  | exportNotAsync name _ => some name
  | described _ _ _ name _ => name
  | _ => none

def fragmentError? : Fault → Option FragmentError
  | fragmentSyntax _ error _ => some error
  | _ => none

/-- The number that a fault itself asks to be reported under. -/
def errorId? : Fault → Option String
  | unparsable _ _ errorId => some errorId
  | described _ _ _ _ errorId => errorId
  | _ => none

def cause : Fault → String
  | unreadable _ cause => cause
  | fault => fault.message

end Fault

/-- The ways in which work on a file can end without a result: a fault, or a
failure of somebody else's code. -/
inductive Failure where
  | fault (cause : Fault)
  | foreign (message : String)
  deriving DecidableEq, Repr

def Failure.message : Failure → String
  | .fault cause => cause.message
  | .foreign message => message

end ComponentQueries

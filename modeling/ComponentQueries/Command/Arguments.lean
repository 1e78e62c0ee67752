/-! What a command line asks for. -/
namespace ComponentQueries

inductive Invocation where
  | extract (paths : List String) (json : Bool) (elements : Option Bool)
  | watch (directory : String) (elements : Option Bool)
  deriving DecidableEq, Repr

/-- The options and paths on a command line. Of two opposite options the last
counts. -/
structure Options where
  paths : List String := []
  json : Bool := false
  elements : Option Bool := none
  deriving DecidableEq, Repr

namespace Options

/-- The short option for more messages, which may be given several times in
one. -/
def isVerbose : List Char → Bool
  | '-' :: c :: rest => (c :: rest).all (· == 'v')
  | _ => false

/-- Reads arguments. After two dashes alone all are paths, and an option that is
not known makes the whole line invalid. -/
def parse? (options : Options) : List String → Option Options
  | [] => some options
  | "--" :: paths => some { options with paths := options.paths ++ paths }
  | argument :: others =>
    match argument with
    | "--json" => parse? { options with json := true } others
    | "--verbose" => parse? options others
    | "--static-query-elements" => parse? { options with elements := some true } others
    | "--no-static-query-elements" => parse? { options with elements := some false } others
    | path =>
      if isVerbose path.toList then parse? options others
      else if path.startsWith "-" ∧ path ≠ "-" then none
      else parse? { options with paths := options.paths ++ [path] } others

end Options

namespace Invocation

def defaultDirectory : String := "src"

def parse? : List String → Option Invocation
  | "extract" :: arguments => do
    let options ← Options.parse? {} arguments
    guard (options.paths ≠ [])
    some (.extract options.paths options.json options.elements)
  | "watch" :: arguments => do
    let options ← Options.parse? {} arguments
    guard (!options.json)
    match options.paths with
    | [] => some (.watch defaultDirectory options.elements)
    | [directory] => some (.watch directory options.elements)
    | _ => none
  | _ => none

end Invocation

end ComponentQueries

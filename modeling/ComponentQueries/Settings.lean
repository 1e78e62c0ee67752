import ComponentQueries.Text.Blank
import ComponentQueries.Text.Lowercase
import ComponentQueries.Text.Numeral

/-! The settings of an extraction and where they come from. -/
namespace ComponentQueries

/-- What to look for and how to report it. -/
structure Settings where
  /-- The package from which tag, hook and element come. -/
  packageName : String := "gatsby"
  /-- The template tag of queries. -/
  tagName : String := "graphql"
  /-- The hook that takes a static query. -/
  hookName : String := "useStaticQuery"
  /-- The element that takes a static query. -/
  elementName : String := "StaticQuery"
  /-- Whether elements are looked at. -/
  staticQueryElements : Bool := true
  /-- How many files are read at a time. A negative number allows no work on
  several files. -/
  maxConcurrency : Int := 32
  /-- Whether code frames have colours. -/
  highlightCodeFrames : Bool := true
  deriving DecidableEq, Repr

abbrev EnvironmentVariables := List (String × String)

namespace Settings

def isTrue (value : String) : Bool :=
  ["1", "true", "yes", "on"].contains (Text.lowercase (Text.trimBlank value))

/-- The value of a flag. A blank value counts as none. -/
def flag? (environment : EnvironmentVariables) (name : String) : Option Bool :=
  ((environment.lookup name).filter fun value => Text.trimBlank value ≠ "").map isTrue

/-- Elements are looked at if their flag says so. Without it they are, up to the
major version of the framework that dropped them. -/
def elementsEnabled (environment : EnvironmentVariables) : Bool :=
  match flag? environment "GQL_EXTRACT_STATIC_QUERY_ELEMENTS" with
  | some enabled => enabled
  | none => Text.trimBlank ((environment.lookup "GATSBY_MAJOR").getD "") ≠ "5"

def concurrency (environment : EnvironmentVariables) (default : Int) :
    Except Text.NumeralError Int :=
  match environment.lookup "GQL_EXTRACT_CONCURRENCY" with
  | none => .ok default
  | some text =>
    match Text.integer text with
    | .ok value => .ok (max 1 value)
    | .error error => .error error

def ofEnvironment (environment : EnvironmentVariables) : Except Text.NumeralError Settings := do
  let defaults : Settings := {}
  let maxConcurrency ← concurrency environment defaults.maxConcurrency
  return {
    packageName := (environment.lookup "GQL_EXTRACT_PACKAGE").getD defaults.packageName
    tagName := (environment.lookup "GQL_EXTRACT_TAG").getD defaults.tagName
    hookName := (environment.lookup "GQL_EXTRACT_HOOK").getD defaults.hookName
    elementName := (environment.lookup "GQL_EXTRACT_ELEMENT").getD defaults.elementName
    staticQueryElements := elementsEnabled environment
    maxConcurrency
    highlightCodeFrames := environment.lookup "FORCE_COLOR" ≠ some "0" }

end Settings

end ComponentQueries

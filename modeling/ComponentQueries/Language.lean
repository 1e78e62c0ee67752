import ComponentQueries.PathName
import ComponentQueries.Text.Blank
import ComponentQueries.Text.Lowercase

/-! The languages of component files and how one is chosen. -/
namespace ComponentQueries

inductive Language where
  | javascript | typescript | tsx
  deriving DecidableEq, Repr

/-- The reasons for which no language can be chosen. -/
inductive LanguageError where
  | unknownName (name : String)
  | unknownSuffix (suffix : String)
  | unspecified
  deriving DecidableEq, Repr

def LanguageError.message : LanguageError → String
  | unknownName name =>
    "Unsupported language '" ++ name ++ "'. Supported: ['javascript', 'tsx', 'typescript']"
  | unknownSuffix suffix => "Unsupported file extension: " ++ suffix
  | unspecified => "Language must be provided when no file path is available."

namespace Language

def label : Language → String
  | javascript => "javascript"
  | typescript => "typescript"
  | tsx => "tsx"

def ofAlias? : String → Option Language
  | "javascript" | "js" | "jsx" => some javascript
  | "typescript" | "ts" => some typescript
  | "tsx" => some tsx
  | _ => none

/-- The language with a name, in letters of any size and with white space
around it. -/
def ofName (name : String) : Except LanguageError Language :=
  match ofAlias? (Text.lowercase (Text.trimBlank name)) with
  | some language => .ok language
  | none => .error (.unknownName name)

/-- The language of files with a suffix in small letters. -/
def ofSuffix? : String → Option Language
  | ".cjs" | ".js" | ".jsx" | ".mjs" => some javascript
  | ".ts" => some typescript
  | ".tsx" => some tsx
  | _ => none

/-- The language of a file. -/
def ofPath (path : PathName) : Except LanguageError Language :=
  let suffix := Text.lowercase path.suffix
  match ofSuffix? suffix with
  | some language => .ok language
  | none => .error (.unknownSuffix suffix)

/-- The language of a file by its path, where a file of an unknown kind counts
as plain JavaScript. -/
def ofPathOrDefault (path : PathName) : Language :=
  match ofPath path with
  | .ok language => language
  | .error _ => javascript

/-- The language by its name, if that is given and not empty, and by the path
otherwise. -/
def resolve (name : Option String) (path : Option PathName) : Except LanguageError Language :=
  match name.filter (· ≠ ""), path with
  | some name, _ => ofName name
  | none, some path => .ok (ofPathOrDefault path)
  | none, none => .error .unspecified

end Language

namespace PathName

def isSupported (path : PathName) : Bool :=
  (Language.ofSuffix? (Text.lowercase path.suffix)).isSome

/-- Directories of dependencies and build output. -/
def ignoredDirectories : List String :=
  [".cache", ".git", "node_modules", "public"]

/-- Paths of component files: in one of the languages, and outside dependencies
and build output. -/
def isComponent (path : PathName) : Bool :=
  path.isSupported && !path.parts.any ignoredDirectories.contains

end PathName

end ComponentQueries

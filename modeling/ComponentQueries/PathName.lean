import ComponentQueries.Text.Split

/-! Paths, in which empty parts and single dots do not count. -/
namespace ComponentQueries

/-- A path of files and directories. Its root is empty for a relative path and
one or two slashes otherwise. Its parts are neither empty nor a single dot. -/
structure PathName where
  root : String
  parts : List String
  deriving DecidableEq, Repr

namespace PathName

/-- The root that a text begins with. More than two slashes count as one. -/
def rootOf (text : List Char) : String :=
  match (text.takeWhile (· == '/')).length with
  | 0 => ""
  | 2 => "//"
  | _ => "/"

def parse (text : String) : PathName :=
  let pieces := (Text.splitAt '/' text.toList).map String.ofList
  ⟨rootOf text.toList, pieces.filter fun piece => piece ≠ "" ∧ piece ≠ "."⟩

/-- The text of a path. The path without parts is a dot. -/
def render (path : PathName) : String :=
  if path.root = "" ∧ path.parts = [] then "."
  else path.root ++ String.intercalate "/" path.parts

def name (path : PathName) : String :=
  path.parts.getLast?.getD ""

def child (path : PathName) (part : String) : PathName :=
  { path with parts := path.parts ++ [part] }

/-- What follows the last dot of a name, with the dot. A dot at the beginning
or at the end begins no suffix. -/
def suffixOf (name : List Char) : List Char :=
  let extension := (name.reverse.takeWhile (· != '.')).reverse
  if extension.length + 1 < name.length ∧ extension ≠ [] then '.' :: extension else []

/-- The suffix of the last part. -/
def suffix (path : PathName) : String :=
  String.ofList (suffixOf path.name.toList)

end PathName

/-- A path without the resource query that a loader may have put behind it. -/
def cleanPath (path : String) : String :=
  String.ofList (path.toList.takeWhile (· != '?'))

end ComponentQueries

import ComponentQueries.Language
import ComponentQueries.Text.Quoted
import ComponentQueries.Text.Utf8

/-! Files and directories below one place, and the component files among them. -/
namespace ComponentQueries

/-- What stands at a place of a workspace. -/
inductive Entry where
  | file (bytes : List UInt8)
  | directory
  deriving DecidableEq, Repr

/-- Files and directories, each under the parts of its path. -/
structure Workspace where
  entries : List (List String × Entry)

inductive ReadFault where
  | missing (path : String)
  | notDirectory (path : String)
  | isDirectory (path : String)
  | nameTooLong (path : String)
  | undecodable (fault : Text.DecodingFault)
  deriving DecidableEq, Repr

def ReadFault.message : ReadFault → String
  | missing path => "[Errno 2] No such file or directory: " ++ Text.quoted path
  | notDirectory path => "[Errno 20] Not a directory: " ++ Text.quoted path
  | isDirectory path => "[Errno 21] Is a directory: " ++ Text.quoted path
  | nameTooLong path => "[Errno 36] File name too long: " ++ Text.quoted path
  | undecodable fault => fault.message

namespace Workspace

def empty : Workspace := ⟨[]⟩

/-- What stands at a place. The top is a directory. -/
def entry? (workspace : Workspace) (parts : List String) : Option Entry :=
  if parts = [] then some .directory else workspace.entries.lookup parts

def remove (workspace : Workspace) (parts : List String) : Workspace :=
  ⟨workspace.entries.filter fun entry => entry.1 ≠ parts⟩

def withDirectories (workspace : Workspace) : List (List String) → Workspace
  | [] => workspace
  | parts :: others =>
    let rest := workspace.withDirectories others
    match rest.entry? parts with
    | some _ => rest
    | none => ⟨rest.entries ++ [(parts, .directory)]⟩

/-- Puts something at a place, and makes the directories that lead to it. -/
def write (workspace : Workspace) (parts : List String) (entry : Entry) : Workspace :=
  let above := (List.range parts.length).map parts.take
  let rest := (workspace.remove parts).withDirectories above
  ⟨rest.entries ++ [(parts, entry)]⟩

inductive Obstacle where
  | missing | notDirectory | nameTooLong
  deriving DecidableEq, Repr

/-- The place that a path leads to: one in the workspace, or a directory above
it, of which nothing else is known. -/
inductive Place where
  | inside (parts : List String)
  | above
  deriving DecidableEq, Repr

def maxNameSize : Nat := 255

def maxPathSize : Nat := 4095

def entryAt? (workspace : Workspace) : Place → Option Entry
  | .inside parts => workspace.entry? parts
  | .above => some .directory

/-- One step from a directory. Two dots lead to the directory above. -/
def Place.step (place : Place) (part : String) : Except Obstacle Place :=
  if part = ".." then
    match place with
    | .inside [] | .above => .ok .above
    | .inside parts => .ok (.inside parts.dropLast)
  else if maxNameSize < part.utf8ByteSize then .error .nameTooLong
  else match place with
    | .inside parts => .ok (.inside (parts ++ [part]))
    | .above => .error .missing

def follow (workspace : Workspace) (place : Place) : List String → Except Obstacle Place
  | [] => if (workspace.entryAt? place).isSome then .ok place else .error .missing
  | part :: others =>
    match workspace.entryAt? place with
    | none => .error .missing
    | some (.file _) => .error .notDirectory
    | some .directory =>
      match place.step part with
      | .error obstacle => .error obstacle
      | .ok next => workspace.follow next others

def locate (workspace : Workspace) (path : PathName) : Except Obstacle Place :=
  if maxPathSize < path.render.utf8ByteSize then .error .nameTooLong
  else workspace.follow (if path.root = "" then .inside [] else .above) path.parts

/-- What a path leads to. A name that is too long is an error. -/
def find? (workspace : Workspace) (path : PathName) : Except ReadFault (Option Entry) :=
  match workspace.locate path with
  | .ok place => .ok (workspace.entryAt? place)
  | .error .nameTooLong => .error (.nameTooLong path.render)
  | .error .missing | .error .notDirectory => .ok none

/-- The bytes of the file that a path leads to. -/
def readBytes (workspace : Workspace) (path : PathName) : Except ReadFault (List UInt8) :=
  match workspace.locate path with
  | .error .missing => .error (.missing path.render)
  | .error .notDirectory => .error (.notDirectory path.render)
  | .error .nameTooLong => .error (.nameTooLong path.render)
  | .ok place =>
    match workspace.entryAt? place with
    | some (.file bytes) => .ok bytes
    | some .directory => .error (.isDirectory path.render)
    | none => .error (.missing path.render)

/-- The text of a file with unified line ends. The resource query behind its
path is no part of its name. -/
def readText (workspace : Workspace) (path : String) : Except ReadFault String :=
  match workspace.readBytes (PathName.parse (cleanPath path)) with
  | .error fault => .error fault
  | .ok bytes =>
    match Text.decode bytes with
    | .error fault => .error (.undecodable fault)
    | .ok text => .ok (String.ofList (Text.unifyLineEnds text))

/-- The files of a workspace, with the reason as text where one cannot be
read. -/
def files (workspace : Workspace) (path : String) : Except String String :=
  match workspace.readText path with
  | .ok text => .ok text
  | .error fault => .error fault.message

/-- The parts of a path without the dots that lead upwards, as far as there is
something to leave. -/
def normalize (parts : List String) : List String :=
  (parts.foldl step []).reverse
where
  /-- Takes one part onto the reversed parts before it. -/
  step (before : List String) (part : String) : List String :=
    match before with
    | last :: others => if part = ".." ∧ last ≠ ".." then others else part :: last :: others
    | [] => [part]

def resolved (path : PathName) : String :=
  ({ path with parts := normalize path.parts } : PathName).render

/-- The order of paths, part by part. -/
def partsBefore : List String → List String → Bool
  | [], _ => true
  | _ :: _, [] => false
  | left :: lefts, right :: rights =>
    if left = right then partsBefore lefts rights else left < right

/-- The component files below a directory that a path leads to, in the order of
their paths. -/
def componentsBelow (workspace : Workspace) (path : PathName) (place : List String) :
    List PathName :=
  let below (entry : List String × Entry) : Option (List String) :=
    match entry.2 with
    | .file _ => if place.isPrefixOf entry.1 then some (entry.1.drop place.length) else none
    | .directory => none
  let files := (workspace.entries.filterMap below).mergeSort partsBefore
  let paths := files.map fun parts => ({ path with parts := path.parts ++ parts } : PathName)
  paths.filter PathName.isComponent

/-- The files to look at for a path: the component files below a directory, and
anything else as it is. Nothing is known below a directory above the
workspace. -/
def collectOne (workspace : Workspace) (path : PathName) : Except ReadFault (List String) :=
  match workspace.find? path, workspace.locate path with
  | .error fault, _ => .error fault
  | .ok (some .directory), .ok (.inside place) =>
    .ok ((workspace.componentsBelow path place).map resolved)
  | .ok (some .directory), _ => .ok []
  | .ok _, _ => .ok [resolved path]

def collect (workspace : Workspace) : List String → Except ReadFault (List String)
  | [] => .ok []
  | path :: others =>
    match workspace.collectOne (PathName.parse path) with
    | .error fault => .error fault
    | .ok first =>
      match workspace.collect others with
      | .error fault => .error fault
      | .ok rest => .ok (first ++ rest)

end Workspace

end ComponentQueries

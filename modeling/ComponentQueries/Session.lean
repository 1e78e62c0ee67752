import ComponentQueries.Diagnostic
import ComponentQueries.Extraction
import ComponentQueries.Prefilter
import ComponentQueries.ResultCache
import ComponentQueries.Schedule
import ComponentQueries.Store

/-! Extraction of many files with a cache of results, a store that is told about each
component, and a list of reports. -/
namespace ComponentQueries

/-- A hook that may offer variants of a text to parse in its stead. It is given
the path and the text, and may fail with a message. -/
abbrev Preprocess := String → String → Except String (Option (List String))

/-- What a session works with. A path that comes from the system may hold bytes that are
no characters, for which labels stand here. Such a path can name a file, but it has no
encoding, and `encodingFault?` says why. -/
structure Toolkit where
  settings : Settings
  grammar : Grammar
  preprocess : Option Preprocess
  digest : List UInt8 → String
  encodingFault? : String → Option String := fun _ => none

/-- The outcome of extracting one version of a file. -/
structure FileResult where
  fragments : List Fragment
  features : Features

namespace Toolkit

def variants (toolkit : Toolkit) (path text : String) : Except String (List String) :=
  match toolkit.preprocess with
  | none => .ok []
  | some hook => (hook (cleanPath path) text).map (·.getD [])

/-- The calls of the hook for a text. -/
def hookCalls (toolkit : Toolkit) (path text : String) : List (String × String) :=
  if toolkit.preprocess.isSome then [(cleanPath path, text)] else []

/-- The tree of a file. It is that of the first variant with one, or that of the
text itself if there is no variant. -/
def tree (toolkit : Toolkit) (path text : String) : Except Failure SyntaxTree :=
  match toolkit.variants path text with
  | .error message => .error (.foreign message)
  | .ok [] =>
    match SyntaxTree.parseFile toolkit.grammar text (cleanPath path) with
    | .ok tree => .ok tree
    | .error location => .error (.fault (.unparsable path location "85911"))
  | .ok variants =>
    let tree? (variant : String) : Option SyntaxTree :=
      (SyntaxTree.parseFile toolkit.grammar variant (cleanPath path)).toOption
    match variants.findSome? tree? with
    | some tree => .ok tree
    | none => .error (.fault (.unparsable path none "85912"))

def extract (toolkit : Toolkit) (path text : String) : Except Failure FileResult :=
  match toolkit.tree path text with
  | .error failure => .error failure
  | .ok tree =>
    match Extraction.ofTree tree path toolkit.settings with
    | .error fault => .error (.fault fault)
    | .ok extraction => .ok ⟨extraction.fragments, Features.ofTree tree⟩

/-- The key of a version of a file. -/
def key (toolkit : Toolkit) (path text : String) : String :=
  contentKey toolkit.digest path text

end Toolkit

/-- The notice of a failure. Nothing is said about variants of which none could
be parsed. -/
def Failure.notice : Failure → Notice
  | .fault (.unparsable _ _ "85912") => .failed none
  | failure => .failed (some failure.message)

def Failure.isUnparsable : Failure → Bool
  | .fault cause => cause.kind == .unparsable
  | .foreign _ => false

/-- What is told about an attempt to get the tree of a file: a fault of the file
itself, and not that of the hook. -/
def Failure.treeNotices : Except Failure SyntaxTree → List Notice
  | .error (.fault cause) => [(Failure.fault cause).notice]
  | .error (.foreign _) | .ok _ => []

/-- The files of a session: the text of each path, or why there is none. -/
abbrev Files := String → Except String String

/-- One version of a file, with the key of its result. -/
structure SourceFile where
  path : String
  text : String
  key : String
  deriving DecidableEq, Repr

/-- Why work on files ends without an outcome: a fault of a file, a path that
can be no name of a file or has no encoding, or a number of files at a time below
zero. -/
inductive Breakoff where
  | fault (cause : Fault)
  | nullCharacter
  | unencodable (reason : String)
  | negativeConcurrency
  deriving DecidableEq, Repr

def Breakoff.message : Breakoff → String
  | fault cause => cause.message
  | nullCharacter => "embedded null byte"
  | unencodable reason => reason
  | negativeConcurrency => "Semaphore initial value must be >= 0"

/-- Tests whether a path can be the name of a file. A null character would end
it. -/
def namesFile (path : String) : Bool :=
  !(cleanPath path).toList.contains '\x00'

/-- Reads a file. Its key is made from the encoded path, so that a path without an
encoding is of no use even where there is a text. -/
def Toolkit.readSource (toolkit : Toolkit) (files : Files) (path : String) :
    Except Breakoff SourceFile :=
  if namesFile path then
    match files path with
    | .error cause => .error (.fault (.unreadable path cause))
    | .ok text =>
      match toolkit.encodingFault? path with
      | some reason => .error (.unencodable reason)
      | none => .ok ⟨path, text, toolkit.key path text⟩
  else .error .nullCharacter

abbrev FileOutcome := Except Breakoff (Option (List Fragment))

namespace FileOutcome

def reason? : FileOutcome → Option Breakoff
  | .error reason => some reason
  | .ok _ => none

def fragments : FileOutcome → List Fragment
  | .error _ => []
  | .ok fragments? => fragments?.getD []

/-- Puts together what came of the files of a batch, each at its place and in the order
in which they were done with. The first reason to break off is handed on, and otherwise
the fragments stand in the order of the batch. -/
def gather (count : Nat) (outcomes : List (Nat × FileOutcome)) :
    Except Breakoff (List Fragment) :=
  match outcomes.findSome? fun entry => entry.2.reason? with
  | some reason => .error reason
  | none => .ok ((List.range count).flatMap fun place =>
      ((outcomes.lookup place).map fragments).getD [])

end FileOutcome

/-- What a session has gathered: results, what was told about components, the
reports, and the calls of the hook. -/
structure Session where
  cache : ResultCache FileResult
  store : ComponentStore
  diagnostics : List Diagnostic
  hookCalls : List (String × String)

namespace Session

def empty : Session := ⟨.empty, .empty, [], []⟩

def notify (session : Session) (path : String) (notice : Notice) : Session :=
  { session with store := session.store.notify path notice }

def notifyAll (session : Session) (path : String) (notices : List Notice) : Session :=
  notices.foldl (fun session notice => session.notify path notice) session

/-- Reports a failure and tells the store about it. A text without a tree is
reported only, as the store was told when the tree was to be built. -/
def fail (session : Session) (toolkit : Toolkit) (path : String) (text : Option String)
    (failure : Failure) : Session :=
  let diagnostic := Diagnostic.ofFailure failure (text.map String.toList) path
    toolkit.settings.highlightCodeFrames
  let session := { session with diagnostics := session.diagnostics ++ [diagnostic] }
  if failure.isUnparsable then session else session.notify path failure.notice

/-- Tells the store about a result. The features are told even if there are
none, which takes back earlier ones. -/
def succeed (session : Session) (path : String) (result : FileResult) : Session :=
  let session := session.notify path (.features result.features)
  if result.fragments.isEmpty then session else session.notify path .succeeded

/-- Builds the tree of a file. The hook is called, and the store is told if there
is no tree. -/
def buildTree (toolkit : Toolkit) (source : SourceFile) (session : Session) : Session :=
  let calls := toolkit.hookCalls source.path source.text
  let session := { session with hookCalls := session.hookCalls ++ calls }
  session.notifyAll source.path (Failure.treeNotices (toolkit.tree source.path source.text))

/-- Extracts a file, or takes the result from the cache, in which case no tree is
built. A fatal fault is handed on. -/
def extractFile (toolkit : Toolkit) (source : SourceFile) (session : Session) :
    FileOutcome × Session :=
  let session := if (session.cache.get? source.key).isSome then session
    else session.buildTree toolkit source
  match session.cache.getOrCompute source.key fun _ => toolkit.extract source.path source.text with
  | (.ok result, cache) =>
    (.ok (some result.fragments), ({ session with cache } : Session).succeed source.path result)
  | (.error (.fault fault), _) =>
    if fault.kind.isFatal then (.error (.fault fault), session)
    else (.ok none, session.fail toolkit source.path (some source.text) (.fault fault))
  | (.error failure, _) =>
    (.ok none, session.fail toolkit source.path (some source.text) failure)

/-- The fragments of a file. There is no list for a file that was passed over or
that failed. A fatal fault is handed on, as is a path that names no file or has no
encoding. -/
def parseFile (toolkit : Toolkit) (files : Files) (path : String) (session : Session) :
    FileOutcome × Session :=
  match toolkit.readSource files path with
  | .error (.fault fault) => (.ok none, session.fail toolkit path none (.fault fault))
  | .error reason => (.error reason, session)
  | .ok source =>
    if Prefilter.passes source.text.toList (Prefilter.markers toolkit.settings.tagName) then
      session.extractFile toolkit source
    else (.ok none, session.notify path (.features Features.none))

/-- What comes of each file, in the order in which the files are done with. From
where a text has arrived nothing comes between the steps of its file. All files are gone
through, also after one that broke off. -/
def parseEach (toolkit : Toolkit) (files : Files) :
    List (String × Nat) → Session → List (Nat × FileOutcome) × Session
  | [], session => ([], session)
  | (path, place) :: others, session =>
    let (outcome, session) := session.parseFile toolkit files path
    let (rest, session) := parseEach toolkit files others session
    ((place, outcome) :: rest, session)

/-- The fragments of several files. A batch with work to do of which no file is ever
admitted does not end. -/
def parseFiles (toolkit : Toolkit) (files : Files) (scheduler : Scheduler)
    (paths : List String) (session : Session) :
    Option (Except Breakoff (List Fragment) × Session) :=
  if toolkit.settings.maxConcurrency < 0 then some (.error .negativeConcurrency, session)
  else if positive : 0 < toolkit.settings.maxConcurrency.toNat then
    let (outcomes, session) := session.parseEach toolkit files
      (scheduler paths toolkit.settings.maxConcurrency.toNat positive).order
    some (FileOutcome.gather paths.length outcomes, session)
  else if paths.isEmpty then some (.ok [], session)
  else none

end Session

end ComponentQueries

import ComponentQueries.Command.Arguments
import ComponentQueries.Command.Report
import ComponentQueries.Digest.Md5
import ComponentQueries.Session
import ComponentQueries.Watcher
import ComponentQueries.Workspace

/-! The two commands: one extracts the queries of files once, the other does so again
for each file that changes. -/
namespace ComponentQueries

/-- Why a command broke off without an exit status of its own. -/
inductive Breakdown where
  | numeral (error : Text.NumeralError)
  | file (fault : ReadFault)
  | extraction (reason : Breakoff)
  | report (error : Report.Error)

def Breakdown.message : Breakdown → String
  | .numeral error => error.message
  | .file fault => fault.message
  | .extraction reason => reason.message
  | .report error => error.message

structure Outcome where
  exitCode : Nat
  stdout : List Char
  stderr : List Char
  breakdown : Option Breakdown

/-- The outcome of a command that broke off. -/
def Outcome.broken (stdout stderr : List Char) (breakdown : Breakdown) : Outcome :=
  ⟨1, stdout, stderr, some breakdown⟩

/-- Files that are put into the workspace or taken away, and the changes that
are delivered then. -/
structure WatchStep where
  files : List (List String × Option Entry)
  batch : Watcher.Batch

/-- The workspace after files were written and deleted. -/
def Workspace.writeAll (workspace : Workspace) (files : List (List String × Option Entry)) :
    Workspace :=
  files.foldl (fun workspace (parts, entry?) => match entry? with
    | some entry => workspace.write parts entry
    | none => workspace.remove parts) workspace

namespace Command

structure World where
  environment : EnvironmentVariables
  grammar : Grammar
  workspace : Workspace
  steps : List WatchStep
  scheduler : Scheduler := Schedule.inOrder
  encodingFault? : String → Option String := fun _ => none

/-- The settings of the environment, in which the command line can switch
elements on or off. -/
def settings (world : World) (elements : Option Bool) : Except Text.NumeralError Settings := do
  let settings ← Settings.ofEnvironment world.environment
  return { settings with
    staticQueryElements := elements.getD settings.staticQueryElements }

def toolkit (world : World) (settings : Settings) : Toolkit :=
  ⟨settings, world.grammar, none, Digest.Md5.hexDigest, world.encodingFault?⟩

/-- The exit status of an extraction that was not broken off. -/
def exitCode (session : Session) : Nat :=
  if session.diagnostics.isEmpty then 0 else 1

/-- What is printed for the outcome of an extraction, and why printing broke off
if it did. Nothing is printed if the table cannot be shown. -/
structure Printed where
  stdout : List Char
  stderr : List Char
  error : Option Report.Error

def Printed.of (fragments : Except Report.Error (List Char)) (diagnostics : List Diagnostic) :
    Printed :=
  match fragments with
  | .error error => ⟨[], [], some error⟩
  | .ok stdout =>
    let (stderr, error) := Report.diagnostics diagnostics
    ⟨stdout, stderr, error⟩

/-- The outcome of the work on files, with what was printed about it. -/
def Printed.outcome (printed : Printed) (exitCode : Nat) : Outcome :=
  match printed.error with
  | some error => .broken printed.stdout printed.stderr (.report error)
  | none => ⟨exitCode, printed.stdout, printed.stderr, none⟩

/-- The outcome of a batch of files of which no file was left over: what is printed are
the fragments with all diagnostics. -/
def conclude (json : Bool) : Except Breakoff (List Fragment) × Session → Outcome
  | (.error (.fault fault), _) =>
    match Report.fatal fault with
    | .ok text => ⟨2, [], text, none⟩
    | .error error => .broken [] [] (.report error)
  | (.error reason, _) => .broken [] [] (.extraction reason)
  | (.ok fragments, session) =>
    let shown := if json then .ok (Report.json fragments) else Report.table fragments
    (Printed.of shown session.diagnostics).outcome (exitCode session)

/-- Extracts the fragments of files and prints them, if that ends. -/
def extractFiles (toolkit : Toolkit) (files : Files) (scheduler : Scheduler)
    (paths : List String) (json : Bool) : Option Outcome :=
  (Session.empty.parseFiles toolkit files scheduler paths).map (conclude json)

/-- Extracts the fragments of files and of the files in directories. -/
def extract (world : World) (settings : Settings) (paths : List String) (json : Bool) :
    Option Outcome :=
  match world.workspace.collect paths with
  | .error fault => some (.broken [] [] (.file fault))
  | .ok files =>
    extractFiles (toolkit world settings) world.workspace.files world.scheduler files json

/-- Extracts files in a session and prints fragments and new diagnostics. -/
def refresh (toolkit : Toolkit) (workspace : Workspace) (scheduler : Scheduler)
    (files : List String) (session : Session) : Option (Except Breakoff Printed × Session) := do
  let session := { session with diagnostics := [] }
  match ← session.parseFiles toolkit workspace.files scheduler files with
  | (.error reason, session) => return (.error reason, session)
  | (.ok fragments, session) =>
    return (.ok (Printed.of (Report.table fragments) session.diagnostics), session)

/-- The files out of some that exist. A name that is too long is an error. -/
def existing (workspace : Workspace) : List String → Except ReadFault (List String)
  | [] => .ok []
  | path :: others =>
    match workspace.find? (PathName.parse path), existing workspace others with
    | .error fault, _ | .ok _, .error fault => .error fault
    | .ok none, .ok rest => .ok rest
    | .ok (some _), .ok rest => .ok (path :: rest)

/-- Extracts the files of one delivery that exist. What goes wrong is passed
over, and what was printed before it stays. -/
def deliver (toolkit : Toolkit) (workspace : Workspace) (scheduler : Scheduler)
    (paths : List String) (session : Session) : Option ((List Char × List Char) × Session) :=
  match existing workspace paths with
  | .error _ => some (([], []), session)
  | .ok files => do
    match ← refresh toolkit workspace scheduler files session with
    | (.error _, session) => return (([], []), session)
    | (.ok printed, session) => return ((printed.stdout, printed.stderr), session)

def follow (toolkit : Toolkit) (scheduler : Scheduler) (workspace : Workspace)
    (session : Session) : List WatchStep → Option (List Char × List Char)
  | [] => some ([], [])
  | step :: others => do
    let workspace := workspace.writeAll step.files
    let (printed, session) ← (Watcher.deliveries [step.batch]).foldlM
      (fun (printed, session) paths => do
        let (more, session) ← deliver toolkit workspace scheduler paths session
        return ((printed.1 ++ more.1, printed.2 ++ more.2), session))
      ((([], []), session) : (List Char × List Char) × Session)
    let rest ← follow toolkit scheduler workspace session others
    return (printed.1 ++ rest.1, printed.2 ++ rest.2)

/-- Watches a directory whose files have been extracted in a session. -/
def watchFrom (world : World) (toolkit : Toolkit) (directory : String) (session : Session)
    (printed : Printed) : Option Outcome :=
  match printed.error, Report.watching (PathName.parse directory) with
  | some error, _ | none, .error error =>
    some (.broken printed.stdout printed.stderr (.report error))
  | none, .ok announcement => do
    let (stdout, stderr) ←
      follow toolkit world.scheduler world.workspace session world.steps
    return ⟨0, printed.stdout ++ announcement ++ stdout, printed.stderr ++ stderr, none⟩

/-- Extracts the files of a directory, then those that change, until the watch
is interrupted. -/
def watch (world : World) (settings : Settings) (directory : String) : Option Outcome :=
  let toolkit := toolkit world settings
  match world.workspace.collect [directory] with
  | .error fault => some (.broken [] [] (.file fault))
  | .ok files => do
    match ← refresh toolkit world.workspace world.scheduler files Session.empty with
    | (.error reason, _) => return .broken [] [] (.extraction reason)
    | (.ok printed, session) => watchFrom world toolkit directory session printed

/-- Runs a command with the settings of its world. There is no outcome of a command that
never ends. -/
def run (world : World) (invocation : Invocation) : Option Outcome :=
  let elements := match invocation with
    | .extract _ _ elements | .watch _ elements => elements
  match settings world elements, invocation with
  | .error error, _ => some (.broken [] [] (.numeral error))
  | .ok settings, .extract paths json _ => extract world settings paths json
  | .ok settings, .watch directory _ => watch world settings directory

end Command

end ComponentQueries

import ComponentQueries.Command.Snapshot

/-! The command line. The files, their syntax trees and the changes to watch are
read from standard input as a snapshot. -/
namespace ComponentQueries

partial def readLines (stream : IO.FS.Stream) : IO (List String) := do
  let line ← stream.getLine
  if line.isEmpty then return [] else return line :: (← readLines stream)

def Outcome.print (outcome : Outcome) : IO UInt32 := do
  IO.print (String.ofList outcome.stdout)
  IO.eprint (String.ofList outcome.stderr)
  if let some breakdown := outcome.breakdown then
    IO.eprintln breakdown.message
  return UInt32.ofNat outcome.exitCode

/-- Runs the command that the arguments ask for on the snapshot that standard
input holds. -/
def runArguments (arguments : List String) : IO UInt32 := do
  match Invocation.parse? arguments with
  | none =>
    IO.eprintln "usage: (extract [--json] PATH... | watch [DIRECTORY]) < SNAPSHOT"
    return 2
  | some invocation =>
    match Snapshot.parse (← readLines (← IO.getStdin)) with
    | .error number =>
      IO.eprintln ("snapshot: line " ++ toString number ++ " cannot be read")
      return 2
    | .ok lines =>
      match Command.run (Snapshot.world lines) invocation with
      | some outcome => outcome.print
      | none =>
        IO.eprintln "no file is ever admitted"
        return 1

end ComponentQueries

def main (arguments : List String) : IO UInt32 :=
  ComponentQueries.runArguments arguments

import ComponentQueries.Language

/-! Changes of files, those that matter, and a watcher that hands them on. -/
namespace ComponentQueries

inductive Change where
  | added | modified | deleted
  deriving DecidableEq, Repr

namespace Watcher

/-- Directories of tools, in which no change matters. -/
def toolDirectories : List String :=
  ["__pycache__", ".git", ".hg", ".svn", ".tox", ".venv", ".idea", "node_modules",
   ".mypy_cache", ".pytest_cache", ".hypothesis"]

def endsIn (ending : List (Char → Bool)) (name : List Char) : Bool :=
  let last := name.reverse.take ending.length
  last.length == ending.length && (last.zip ending.reverse).all fun (c, test) => test c

/-- The tests for the characters of a text, in which a question mark stands for
any character. -/
def pattern (text : String) : List (Char → Bool) :=
  text.toList.map fun expected c => expected == '?' || c == expected

/-- Names of files that editors and tools make for a short time. -/
def isTransient (name : List Char) : Bool :=
  endsIn (pattern ".pyc") name || endsIn (pattern ".pyo") name || endsIn (pattern ".pyd") name ||
    endsIn (pattern ".___jb_???___") name || endsIn (pattern ".sw?") name ||
    endsIn (pattern "~") name || ".#".toList.isPrefixOf name || name == ".DS_Store".toList ||
    "flycheck_".toList.isPrefixOf name

/-- Tests whether a change of a path is let through: that of a component file
which is not in a directory of tools and not transient. -/
def accepts (path : String) : Bool :=
  let pieces := Text.splitAt '/' (path.toList.dropWhile (· == '/'))
  !(pieces.map String.ofList).any toolDirectories.contains &&
    !isTransient (pieces.getLastD []) && (PathName.parse path).isComponent

abbrev Batch := List (Change × String)

/-- The component files of a batch that can be extracted again, sorted and each
once. A deleted file has nothing to extract. -/
def changedPaths (batch : Batch) : List String :=
  let changed := batch.filterMap fun (change, path) =>
    let path := PathName.parse path
    if path.isComponent ∧ change ≠ .deleted then some path.render else none
  (changed.mergeSort (· ≤ ·)).eraseDups

end Watcher

/-- A watcher that hands on changed component files. While it does not run,
batches wait. -/
structure Watcher where
  running : Bool
  waiting : List Watcher.Batch

namespace Watcher

def idle : Watcher := ⟨false, []⟩

/-- The lists of files that batches lead to. A batch without files leads to
none. -/
def deliveries (batches : List Batch) : List (List String) :=
  (batches.map changedPaths).filter (· ≠ [])

inductive Action where
  | start | stop
  | feed (batch : Batch)

/-- The watcher after an action, and the lists of files that it hands on. -/
def act (watcher : Watcher) : Action → Watcher × List (List String)
  | .start => (⟨true, []⟩, deliveries watcher.waiting)
  | .stop => ({ watcher with running := false }, [])
  | .feed batch =>
    if watcher.running then (watcher, deliveries [batch])
    else ({ watcher with waiting := watcher.waiting ++ [batch] }, [])

end Watcher

end ComponentQueries

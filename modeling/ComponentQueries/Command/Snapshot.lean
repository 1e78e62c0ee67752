import ComponentQueries.Command
import ComponentQueries.Text.Hex

/-! The world of a command as text, one entry on each line. The fields of a line
are separated by single spaces, and texts are written as the hexadecimal digits
of their bytes. -/
namespace ComponentQueries.Snapshot

/-- An entry of a snapshot. Nodes belong to the tree before them and changes to
the step before them, and what is written or removed after the beginning of a
step happens in that step. -/
inductive Line where
  | setting (name value : String)
  | write (path : String) (entry : Entry)
  | remove (path : String)
  | tree (language : Language) (text : String)
  | node (row : NodeRow)
  | step
  | change (change : Change) (path : String)

def text? (digits : String) : Option String := do
  let bytes ← Text.hexBytes? digits.toList
  let text ← (Text.decode bytes).toOption
  some (String.ofList text)

def change? : String → Option Change
  | "added" => some .added
  | "modified" => some .modified
  | "deleted" => some .deleted
  | _ => none

/-- The node that fields stand for: its kind, its marks as a sum of 1 for named,
2 for missing and 4 for an error inside, its bytes, and the number of its
children. -/
def row? (kind marks start stop childCount : String) (field : Option Field) : Option NodeRow := do
  let marks ← marks.toNat?
  some {
    kind := .ofLabel (← text? kind)
    named := marks % 2 == 1
    missing := marks / 2 % 2 == 1
    hasError := marks / 4 % 2 == 1
    start := ← start.toNat?
    stop := ← stop.toNat?
    field
    childCount := ← childCount.toNat? }

def Line.ofFields? : List String → Option Line
  | ["setting", name, value] => return .setting (← text? name) (← text? value)
  | ["file", path, content] =>
    return .write (← text? path) (.file (← Text.hexBytes? content.toList))
  | ["directory", path] => return .write (← text? path) .directory
  | ["remove", path] => return .remove (← text? path)
  | ["tree", language, text] => return .tree (← Language.ofAlias? language) (← text? text)
  | ["node", kind, marks, start, stop, childCount] =>
    return .node (← row? kind marks start stop childCount none)
  | ["node", kind, marks, start, stop, childCount, field] =>
    return .node (← row? kind marks start stop childCount (some (.ofLabel field)))
  | ["step"] => some .step
  | ["change", name, path] => return .change (← change? name) (← text? path)
  | _ => none

def fields (line : String) : List String :=
  (Text.splitAt ' ' (Text.trim Text.isLineBreak line.toList)).map String.ofList

/-- The entries of a snapshot, or the number of the first line that is none. -/
def parse (lines : List String) : Except Nat (List Line) :=
  (lines.zipIdx 1).mapM fun (line, number) =>
    match Line.ofFields? (fields line) with
    | some entry => .ok entry
    | none => .error number

def Line.isStep : Line → Bool
  | step => true
  | _ => false

def Line.node? : Line → Option NodeRow
  | node row => some row
  | _ => none

def files (lines : List Line) : List (List String × Option Entry) :=
  lines.filterMap fun line => match line with
    | .write path entry => some ((PathName.parse path).parts, some entry)
    | .remove path => some ((PathName.parse path).parts, none)
    | _ => none

def batch (lines : List Line) : Watcher.Batch :=
  lines.filterMap fun line => match line with
    | .change change path => some (change, path)
    | _ => none

def steps : List Line → List WatchStep
  | [] => []
  | line :: others =>
    let own := others.takeWhile (!·.isStep)
    if line.isStep then ⟨files own, batch own⟩ :: steps others else steps others

def trees : List Line → List ((Language × String) × Node)
  | [] => []
  | .tree language text :: others =>
    let rows := (others.takeWhile (·.node?.isSome)).filterMap Line.node?
    ((language, text), (Node.ofListing rows).headD Node.blank) :: trees others
  | _ :: others => trees others

def environment (lines : List Line) : EnvironmentVariables :=
  lines.filterMap fun line => match line with
    | .setting name value => some (name, value)
    | _ => none

def world (lines : List Line) : Command.World :=
  { environment := environment lines
    grammar := Grammar.ofTrees (trees lines)
    workspace := Workspace.empty.writeAll (files (lines.takeWhile (!·.isStep)))
    steps := steps lines }

end ComponentQueries.Snapshot

import ComponentQueries.SyntaxTree.Kind

/-! Nodes of syntax trees, and trees as listings in document order. -/
namespace ComponentQueries

/-- A node of a syntax tree, with the bytes of the text that it covers. A
missing node was put in by the parser where the text has none, and a node has
an error if an error or a missing node is somewhere in it. -/
structure Node where
  kind : Kind
  named : Bool
  missing : Bool
  hasError : Bool
  start : Nat
  stop : Nat
  field : Option Field
  children : List Node

namespace Node

def isFault (node : Node) : Bool :=
  node.kind == .error || node.missing

mutual

/-- The first fault in a subtree. Only children that contain one are searched. -/
def firstFault? : Node → Option Node
  | ⟨kind, named, missing, hasError, start, stop, field, children⟩ =>
    let node : Node := ⟨kind, named, missing, hasError, start, stop, field, children⟩
    if node.isFault then some node else firstFaultIn? children

def firstFaultIn? : List Node → Option Node
  | [] => none
  | child :: others =>
    if child.hasError || child.missing then
      match firstFault? child with
      | some fault => some fault
      | none => firstFaultIn? others
    else firstFaultIn? others

end

end Node

/-- A node as it stands in a listing of a tree in document order, with the
number of its children. The children, each with its subtree, follow it. -/
structure NodeRow where
  kind : Kind
  named : Bool
  missing : Bool
  hasError : Bool
  start : Nat
  stop : Nat
  field : Option Field
  childCount : Nat

namespace Node

/-- Puts a row in front of the subtrees that follow it in the listing and takes
the first of them as its children. -/
def ofRow (row : NodeRow) (subtrees : List Node) : List Node :=
  let (children, others) := subtrees.splitAt row.childCount
  ⟨row.kind, row.named, row.missing, row.hasError, row.start, row.stop, row.field, children⟩ ::
    others

/-- The subtrees of a listing. The listing of one tree has one. -/
def ofListing (rows : List NodeRow) : List Node :=
  rows.foldr ofRow []

end Node

end ComponentQueries

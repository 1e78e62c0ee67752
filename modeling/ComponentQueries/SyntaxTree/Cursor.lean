import ComponentQueries.SyntaxTree.Node

/-! Nodes at their places in a tree, from which one can go up as well as down. -/
namespace ComponentQueries

/-- A step from a node down to the child with an index. -/
structure Crumb where
  parent : Node
  index : Nat

/-- A node at its place in a tree. The trail leads from the node up to the
root. -/
structure Cursor where
  node : Node
  trail : List Crumb

namespace Cursor

def ofRoot (root : Node) : Cursor := ⟨root, []⟩

def kind (cursor : Cursor) : Kind := cursor.node.kind

def parent? (cursor : Cursor) : Option Cursor :=
  match cursor.trail with
  | [] => none
  | crumb :: trail => some ⟨crumb.parent, trail⟩

def along : List Crumb → List Cursor
  | [] => []
  | crumb :: trail => ⟨crumb.parent, trail⟩ :: along trail

def ancestors (cursor : Cursor) : List Cursor :=
  along cursor.trail

def childrenFrom (parent : Node) (trail : List Crumb) (index : Nat) : List Node → List Cursor
  | [] => []
  | child :: others =>
    ⟨child, ⟨parent, index⟩ :: trail⟩ :: childrenFrom parent trail (index + 1) others

def children (cursor : Cursor) : List Cursor :=
  childrenFrom cursor.node cursor.trail 0 cursor.node.children

/-- The children that are more than punctuation or keywords. -/
def namedChildren (cursor : Cursor) : List Cursor :=
  cursor.children.filter (·.node.named)

def child? (cursor : Cursor) (field : Field) : Option Cursor :=
  cursor.children.find? (·.node.field = some field)

mutual

def walkNode (trail : List Crumb) : Node → List Cursor
  | ⟨kind, named, missing, hasError, start, stop, field, children⟩ =>
    let node : Node := ⟨kind, named, missing, hasError, start, stop, field, children⟩
    ⟨node, trail⟩ :: walkList node trail 0 children

/-- The nodes below `parent` in document order, from an index on. -/
def walkList (parent : Node) (trail : List Crumb) (index : Nat) : List Node → List Cursor
  | [] => []
  | child :: others =>
    walkNode (⟨parent, index⟩ :: trail) child ++ walkList parent trail (index + 1) others

end

/-- The node and all nodes below it, in document order. -/
def walk (cursor : Cursor) : List Cursor :=
  walkNode cursor.trail cursor.node

/-- The first named child that is no comment. -/
def firstExpression? (cursor : Cursor) : Option Cursor :=
  cursor.namedChildren.find? (·.kind ≠ .comment)

end Cursor

/-- What tells a node from the others of its tree: its kind and its bytes. -/
structure NodeKey where
  kind : Kind
  start : Nat
  stop : Nat
  deriving DecidableEq, Repr

def Cursor.key (cursor : Cursor) : NodeKey :=
  ⟨cursor.node.kind, cursor.node.start, cursor.node.stop⟩

end ComponentQueries

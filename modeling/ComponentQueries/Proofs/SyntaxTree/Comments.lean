import ComponentQueries.Proofs.SyntaxTree.Places

/-! Trees without their comments. All other nodes stay as they are, in their order, and what
is reached from a node is reached from it without the comments. -/
namespace ComponentQueries

namespace Node

/-- Comments. A comment plays no role in its parent and has no parts. -/
def isComment (node : Node) : Bool :=
  node.kind == .comment && node.field.isNone && node.children.isEmpty

/-- Comments are nodes of their own kind that have no role and no children. -/
theorem isComment_iff {node : Node} :
    node.isComment = true ↔ node.kind = .comment ∧ node.field = none ∧ node.children = [] := by
  simp [isComment, and_assoc]

mutual

/-- The node without the comments below it. -/
def bare : Node → Node
  | ⟨kind, named, missing, hasError, start, stop, field, children⟩ =>
    ⟨kind, named, missing, hasError, start, stop, field, bareList children⟩

/-- Nodes without the comments among them and below them. -/
def bareList : List Node → List Node
  | [] => []
  | child :: others => if child.isComment then bareList others else child.bare :: bareList others

end

@[simp] theorem kind_bare (node : Node) : node.bare.kind = node.kind := by
  cases node
  rfl

@[simp] theorem named_bare (node : Node) : node.bare.named = node.named := by
  cases node
  rfl

@[simp] theorem start_bare (node : Node) : node.bare.start = node.start := by
  cases node
  rfl

@[simp] theorem stop_bare (node : Node) : node.bare.stop = node.stop := by
  cases node
  rfl

@[simp] theorem field_bare (node : Node) : node.bare.field = node.field := by
  cases node
  rfl

/-- The children of a node without comments are those of the node that are none, each without
its own. -/
@[simp] theorem children_bare (node : Node) : node.bare.children = bareList node.children := by
  cases node
  rfl

/-- The recursion over the nodes is a filter and a map. -/
theorem bareList_eq (nodes : List Node) :
    bareList nodes = (nodes.filter (!·.isComment)).map bare := by
  induction nodes with
  | nil => rfl
  | cons node others ih =>
      cases hComment : node.isComment with
      | true => simp [bareList, hComment, ih]
      | false => simp [bareList, hComment, ih]

end Node

/-- The step without the comments: only the other nodes on the left count for the index. -/
def Crumb.bare (crumb : Crumb) : Crumb :=
  ⟨crumb.parent.bare, (Node.bareList (crumb.parent.children.take crumb.index)).length⟩

namespace Cursor

/-- The node at its place in the tree without comments. -/
def bare (cursor : Cursor) : Cursor :=
  ⟨cursor.node.bare, cursor.trail.map Crumb.bare⟩

/-- The places of all nodes but comments in the tree without these. -/
def bareAll (cursors : List Cursor) : List Cursor :=
  (cursors.filter (!·.node.isComment)).map bare

@[simp] theorem node_bare (cursor : Cursor) : cursor.bare.node = cursor.node.bare := rfl

@[simp] theorem kind_bare (cursor : Cursor) : cursor.bare.kind = cursor.kind :=
  cursor.node.kind_bare

/-- A node keeps its key, so what is filed under it is found again. -/
@[simp] theorem key_bare (cursor : Cursor) : cursor.bare.key = cursor.key := by
  simp [key]

/-- A node that counts as a comment is of that kind. Others of the kind may have a role. -/
theorem kind_of_isComment {cursor : Cursor} (h : cursor.node.isComment = true) :
    cursor.kind = .comment :=
  (Node.isComment_iff.mp h).1

/-! What is computed from a list of nodes is the same without the comments, if these do not
count for it. -/
section Lists

variable {α β : Type} {cursors : List Cursor}

/-- What is collected from the nodes is the same without the comments, if nothing is collected
from them. -/
theorem flatMap_bareAll {whole bared : Cursor → List α}
    (same : ∀ cursor ∈ cursors, cursor.node.isComment = false → bared cursor.bare = whole cursor)
    (skips : ∀ cursor ∈ cursors, cursor.node.isComment = true → whole cursor = []) :
    (bareAll cursors).flatMap bared = cursors.flatMap whole := by
  induction cursors with
  | nil => rfl
  | cons cursor others ih =>
      have hRest := ih (fun other h => same other (List.mem_cons_of_mem _ h))
        (fun other h => skips other (List.mem_cons_of_mem _ h))
      rw [List.flatMap_cons, ← hRest]
      cases hComment : cursor.node.isComment with
      | true => simp [bareAll, hComment, skips cursor List.mem_cons_self hComment]
      | false => simp [bareAll, hComment, same cursor List.mem_cons_self hComment]

/-- A choice by what comments do not change can be made before or after. -/
theorem bareAll_filter {chosen : Cursor → Bool}
    (same : ∀ cursor, chosen cursor.bare = chosen cursor) (cursors : List Cursor) :
    (bareAll cursors).filter chosen = bareAll (cursors.filter chosen) := by
  have hSame : chosen ∘ bare = chosen := funext same
  rw [bareAll, bareAll, List.filter_map, hSame, List.filter_filter, List.filter_filter]
  simp only [Bool.and_comm]

/-- The first node without comments is the first that is none. -/
theorem head?_bareAll (cursors : List Cursor) :
    (bareAll cursors).head? = (cursors.find? (!·.node.isComment)).map bare := by
  rw [bareAll, List.head?_map, List.head?_filter]

/-- The last node stays the last, if it is no comment. -/
theorem getLast?_bareAll {last : Cursor} (hLast : cursors.getLast? = some last)
    (h : last.node.isComment = false) : (bareAll cursors).getLast? = some last.bare := by
  obtain ⟨others, rfl⟩ := List.getLast?_eq_some_iff.mp hLast
  simp [bareAll, h]

/-- What is found at the nodes is found without the comments too, up to the places that it
names, if nothing is found at a comment. -/
theorem filterMap_bareAll {whole : Cursor → Option α} {bared : Cursor → Option β} {change : α → β}
    (same : ∀ cursor ∈ cursors, bared cursor.bare = (whole cursor).map change)
    (skips : ∀ cursor ∈ cursors, cursor.node.isComment = true → whole cursor = none) :
    (bareAll cursors).filterMap bared = (cursors.filterMap whole).map change := by
  induction cursors with
  | nil => rfl
  | cons cursor others ih =>
      have hRest := ih (fun other h => same other (List.mem_cons_of_mem _ h))
        (fun other h => skips other (List.mem_cons_of_mem _ h))
      have hSame := same cursor List.mem_cons_self
      simp only [bareAll] at hRest ⊢
      cases hComment : cursor.node.isComment with
      | true => simp [hComment, skips cursor List.mem_cons_self hComment, hRest]
      | false =>
          cases hWhole : whole cursor with
          | none => simp [hComment, hSame, hWhole, hRest]
          | some found => simp [hComment, hSame, hWhole, hRest]

/-- The same for nodes of which none is left out. -/
theorem filterMap_map_bare {whole : Cursor → Option α} {bared : Cursor → Option β}
    {change : α → β} (same : ∀ cursor, bared cursor.bare = (whole cursor).map change)
    (cursors : List Cursor) :
    (cursors.map bare).filterMap bared = (cursors.filterMap whole).map change := by
  rw [List.filterMap_map, List.map_filterMap]
  congr 1
  funext cursor
  exact same cursor

/-- A selection that takes no comments is the same without them. -/
theorem filter_bareAll {whole bared : Cursor → Bool}
    (same : ∀ cursor ∈ cursors, bared cursor.bare = whole cursor)
    (skips : ∀ cursor ∈ cursors, cursor.node.isComment = true → whole cursor = false) :
    (bareAll cursors).filter bared = (cursors.filter whole).map bare := by
  rw [← List.filterMap_eq_filter, ← List.filterMap_eq_filter]
  refine filterMap_bareAll (fun cursor h => ?_) (fun cursor h hComment => ?_)
  · cases hWhole : whole cursor with
    | true => simp [Option.guard, same cursor h, hWhole]
    | false => simp [Option.guard, same cursor h, hWhole]
  · simp [Option.guard, skips cursor h hComment]

/-- The first node of a certain sort stays the first, if a comment is not of the sort. -/
theorem find?_bareAll {whole bared : Cursor → Bool}
    (same : ∀ cursor ∈ cursors, bared cursor.bare = whole cursor)
    (skips : ∀ cursor ∈ cursors, cursor.node.isComment = true → whole cursor = false) :
    (bareAll cursors).find? bared = (cursors.find? whole).map bare := by
  rw [← List.head?_filter, ← List.head?_filter, filter_bareAll same skips, List.head?_map]

/-- A comment does not decide whether there is a node of a certain sort, if it is not of the
sort. -/
theorem any_bareAll {whole bared : Cursor → Bool}
    (same : ∀ cursor ∈ cursors, bared cursor.bare = whole cursor)
    (skips : ∀ cursor ∈ cursors, cursor.node.isComment = true → whole cursor = false) :
    (bareAll cursors).any bared = cursors.any whole := by
  rw [← List.isSome_find?, ← List.isSome_find?, find?_bareAll same skips, Option.isSome_map]

end Lists

/-- The children from one on. The index of a child without the comments is the number of
others before it, `past` being all that are. -/
theorem childrenFrom_bare (parent : Node) (trail : List Crumb) (nodes past : List Node)
    (hChildren : parent.children = past ++ nodes) :
    childrenFrom parent.bare (trail.map Crumb.bare) (Node.bareList past).length
        (Node.bareList nodes) =
      bareAll (childrenFrom parent trail past.length nodes) := by
  induction nodes generalizing past with
  | nil => rfl
  | cons node others ih =>
      have hRest := ih (past ++ [node])
        (by rw [hChildren, List.append_assoc, List.singleton_append])
      cases hComment : node.isComment with
      | true =>
          have hLength : (Node.bareList (past ++ [node])).length = (Node.bareList past).length := by
            simp [Node.bareList_eq, hComment]
          rw [hLength, List.length_append, List.length_singleton] at hRest
          simp [childrenFrom, Node.bareList, hComment, hRest, bareAll]
      | false =>
          have hLength : (Node.bareList (past ++ [node])).length =
              (Node.bareList past).length + 1 := by
            simp [Node.bareList_eq, hComment]
          have hIndex : Crumb.bare ⟨parent, past.length⟩ =
              ⟨parent.bare, (Node.bareList past).length⟩ := by
            simp [Crumb.bare, hChildren]
          rw [hLength, List.length_append, List.length_singleton] at hRest
          simp [childrenFrom, Node.bareList, hComment, hRest, bareAll, bare, hIndex]

/-- The children without the comments. -/
theorem children_bare (cursor : Cursor) : cursor.bare.children = bareAll cursor.children := by
  have h := childrenFrom_bare cursor.node cursor.trail cursor.node.children [] rfl
  rw [children, children, node_bare, Node.children_bare]
  exact h

theorem namedChildren_bare (cursor : Cursor) :
    cursor.bare.namedChildren = bareAll cursor.namedChildren := by
  rw [namedChildren, namedChildren, children_bare, bareAll_filter]
  simp

/-- The named children of a kind are the same, if the kind is not that of comments. -/
theorem namedChildren_filter_bare (kind : Kind) (h : kind ≠ .comment) (cursor : Cursor) :
    cursor.bare.namedChildren.filter (·.kind = kind) =
      (cursor.namedChildren.filter (·.kind = kind)).map bare := by
  rw [namedChildren_bare]
  refine filter_bareAll (fun child _ => by simp) (fun child _ hComment => ?_)
  simp [kind_of_isComment hComment, Ne.symm h]

/-- So is the first of them. -/
theorem namedChildren_find?_bare (kind : Kind) (h : kind ≠ .comment) (cursor : Cursor) :
    cursor.bare.namedChildren.find? (·.kind = kind) =
      (cursor.namedChildren.find? (·.kind = kind)).map bare := by
  rw [← List.head?_filter, ← List.head?_filter, namedChildren_filter_bare kind h, List.head?_map]

/-- A role is played by the same child, since no comment plays one. -/
theorem child?_bare (cursor : Cursor) (field : Field) :
    cursor.bare.child? field = (cursor.child? field).map bare := by
  rw [child?, child?, children_bare]
  refine find?_bareAll (fun child _ => by simp) (fun child _ hComment => ?_)
  simp [(Node.isComment_iff.mp hComment).2.1]

/-- A child in a role is no comment, so it is judged the same. -/
theorem any_child?_bare {whole bared : Cursor → Bool}
    (same : ∀ child, bared child.bare = whole child) (cursor : Cursor) (field : Field) :
    (cursor.bare.child? field).any bared = (cursor.child? field).any whole := by
  rw [child?_bare]
  cases cursor.child? field with
  | none => rfl
  | some child => exact same child

/-- The first expression is looked for past comments in the first place. -/
theorem firstExpression?_bare (cursor : Cursor) :
    cursor.bare.firstExpression? = cursor.firstExpression?.map bare := by
  rw [firstExpression?, firstExpression?, namedChildren_bare]
  refine find?_bareAll (fun child _ => by simp) (fun child _ hComment => ?_)
  simp [kind_of_isComment hComment]

theorem parent?_bare (cursor : Cursor) : cursor.bare.parent? = cursor.parent?.map bare := by
  obtain ⟨node, trail⟩ := cursor
  cases trail with
  | nil => rfl
  | cons crumb trail => rfl

/-- The nodes around a node are no comments, since they have children. -/
theorem ancestors_bare (cursor : Cursor) : cursor.bare.ancestors = cursor.ancestors.map bare := by
  obtain ⟨node, trail⟩ := cursor
  simp only [ancestors, bare]
  induction trail with
  | nil => rfl
  | cons crumb trail ih =>
      rw [List.map_cons, along, along, ih, List.map_cons]
      rfl

theorem children_of_isComment {cursor : Cursor} (h : cursor.node.isComment = true) :
    cursor.children = [] := by
  rw [children, (Node.isComment_iff.mp h).2.2]
  rfl

/-- A walk from a comment goes nowhere else. -/
theorem walk_of_isComment {cursor : Cursor} (h : cursor.node.isComment = true) :
    cursor.walk = [cursor] := by
  rw [walk_eq, children_of_isComment h]
  rfl

/-- The nodes below one, itself included. Nothing is below a comment. -/
theorem walk_bare {cursor : Cursor} (h : cursor.node.isComment = false) :
    cursor.bare.walk = bareAll cursor.walk := by
  induction cursor using induction_down with
  | step cursor ih =>
      have hBelow : cursor.bare.children.flatMap walk =
          bareAll (cursor.children.flatMap walk) := by
        rw [children_bare, flatMap_bareAll (fun child hChild hOther => ih child hChild hOther)]
        · simp only [bareAll, List.filter_flatMap, List.map_flatMap]
        · intro child _ hComment
          simp [walk_of_isComment hComment, bareAll, hComment]
      rw [walk_eq, walk_eq cursor, hBelow]
      simp [bareAll, h]

theorem walk_bare_of_isComment {cursor : Cursor} (h : cursor.node.isComment = true) :
    cursor.bare.walk = [cursor.bare] := by
  rw [walk_eq, children_bare, children_of_isComment h]
  rfl

/-- What a walk collects is the same without the comments, if these do not count. The node
at the top may be one itself. -/
theorem flatMap_walk_bare {α : Type} {cursor : Cursor} {whole bared : Cursor → List α}
    (same : ∀ lower ∈ cursor.walk, bared lower.bare = whole lower)
    (skips : ∀ lower ∈ cursor.walk, lower.node.isComment = true → whole lower = []) :
    cursor.bare.walk.flatMap bared = cursor.walk.flatMap whole := by
  cases hComment : cursor.node.isComment with
  | true =>
      rw [walk_of_isComment hComment] at same ⊢
      rw [walk_bare_of_isComment hComment, List.flatMap_singleton, List.flatMap_singleton]
      exact same cursor (List.mem_singleton_self _)
  | false =>
      rw [walk_bare hComment]
      exact flatMap_bareAll (fun lower h _ => same lower h) skips

/-- A selection from the walk that takes no comments is the same without them. -/
theorem filter_walk_bare {whole bared : Cursor → Bool}
    (same : ∀ lower, bared lower.bare = whole lower)
    (skips : ∀ lower : Cursor, lower.kind = .comment → whole lower = false) (cursor : Cursor) :
    cursor.bare.walk.filter bared = (cursor.walk.filter whole).map bare := by
  cases hComment : cursor.node.isComment with
  | true =>
      have hWhole := skips cursor (kind_of_isComment hComment)
      have hBared := (same cursor).trans hWhole
      rw [walk_of_isComment hComment, walk_bare_of_isComment hComment]
      simp [hWhole, hBared]
  | false =>
      rw [walk_bare hComment]
      exact filter_bareAll (fun lower _ => same lower)
        (fun lower _ hComment => skips lower (kind_of_isComment hComment))

end Cursor

namespace SyntaxTree

/-- The tree of a text without the comments. The text stays, so that all other nodes cover
what they did. -/
def bare (tree : SyntaxTree) : SyntaxTree :=
  { tree with root := tree.root.bare }

@[simp] theorem text_bare (tree : SyntaxTree) : tree.bare.text = tree.text := rfl

@[simp] theorem path_bare (tree : SyntaxTree) : tree.bare.path = tree.path := rfl

@[simp] theorem top_bare (tree : SyntaxTree) : tree.bare.top = tree.top.bare := rfl

/-- Nodes have the same text, since neither the text of the tree nor their places in it change. -/
@[simp] theorem textOf_bare (tree : SyntaxTree) (cursor : Cursor) :
    tree.bare.textOf cursor.bare = tree.textOf cursor := by
  simp [textOf]

@[simp] theorem rangeOf_bare (tree : SyntaxTree) (node : Node) :
    tree.bare.rangeOf node.bare = tree.rangeOf node := by
  simp [rangeOf]

/-- Strings have the same value, which is read off their text. -/
@[simp] theorem stringValue?_bare (tree : SyntaxTree) (cursor : Cursor) :
    tree.bare.stringValue? cursor.bare = tree.stringValue? cursor := by
  simp [stringValue?]

end SyntaxTree

end ComponentQueries

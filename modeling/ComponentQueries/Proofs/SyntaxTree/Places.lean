import ComponentQueries.SyntaxTree

/-! The places of a tree, reached step by step from the root. The walk lists exactly
these, whatever the shape of the tree is. -/
namespace ComponentQueries.Cursor

/-- The node itself, or one that is reached by going down from it. -/
inductive Below (top : Cursor) : Cursor → Prop where
  | self : Below top top
  | down {cursor child : Cursor} (above : Below top cursor) (step : child ∈ cursor.children) :
      Below top child

/-- Being below goes on from node to node. -/
theorem Below.trans {top middle cursor : Cursor} (upper : top.Below middle)
    (lower : middle.Below cursor) : top.Below cursor := by
  induction lower with
  | self => exact upper
  | down _ step ih => exact ih.down step

theorem below_of_mem_children {cursor child : Cursor} (h : child ∈ cursor.children) :
    cursor.Below child :=
  Below.self.down h

/-- Going down begins with a step to a child, unless it does not begin at all. -/
theorem below_iff {top cursor : Cursor} :
    top.Below cursor ↔ cursor = top ∨ ∃ child ∈ top.children, child.Below cursor := by
  constructor
  · intro h
    induction h with
    | self => exact Or.inl rfl
    | @down middle cursor _ step ih =>
        rcases ih with rfl | ⟨child, hChild, h⟩
        · exact Or.inr ⟨cursor, step, Below.self⟩
        · exact Or.inr ⟨child, hChild, h.down step⟩
  · rintro (rfl | ⟨child, hChild, h⟩)
    · exact Below.self
    · exact (below_of_mem_children hChild).trans h

theorem node_mem_of_mem_childrenFrom {parent : Node} {trail : List Crumb} {cursor : Cursor}
    (nodes : List Node) (index : Nat) (h : cursor ∈ childrenFrom parent trail index nodes) :
    cursor.node ∈ nodes := by
  induction nodes generalizing index with
  | nil => simp [childrenFrom] at h
  | cons node others ih =>
      rcases List.mem_cons.mp h with rfl | h
      · exact List.mem_cons_self ..
      · exact List.mem_cons_of_mem _ (ih (index + 1) h)

theorem node_mem_children {cursor child : Cursor} (h : child ∈ cursor.children) :
    child.node ∈ cursor.node.children :=
  node_mem_of_mem_childrenFrom _ 0 h

/-- A child is smaller, which makes recursion over nodes end. -/
theorem sizeOf_child_lt {cursor child : Cursor} (h : child ∈ cursor.children) :
    sizeOf child.node < sizeOf cursor.node := by
  have hSize := List.sizeOf_lt_of_mem (node_mem_children h)
  obtain ⟨⟨kind, named, missing, hasError, start, stop, field, children⟩, trail⟩ := cursor
  simp only [Node.mk.sizeOf_spec] at hSize ⊢
  omega

/-- What holds of a node as soon as it holds of its children holds of every node. -/
theorem induction_down {motive : Cursor → Prop}
    (step : ∀ cursor : Cursor, (∀ child ∈ cursor.children, motive child) → motive cursor)
    (cursor : Cursor) : motive cursor :=
  step cursor fun child _h => induction_down step child
termination_by sizeOf cursor.node
decreasing_by exact sizeOf_child_lt _h

/-- The walk through the children of a node is the walks from each of them. -/
theorem walkList_eq_flatMap (parent : Node) (trail : List Crumb) (nodes : List Node)
    (index : Nat) :
    walkList parent trail index nodes = (childrenFrom parent trail index nodes).flatMap walk := by
  induction nodes generalizing index with
  | nil => simp [walkList, childrenFrom]
  | cons node others ih => simp [walkList, childrenFrom, walk, ih]

/-- A walk begins with the node and goes through its children in turn. -/
theorem walk_eq (cursor : Cursor) : cursor.walk = cursor :: cursor.children.flatMap walk := by
  obtain ⟨⟨kind, named, missing, hasError, start, stop, field, children⟩, trail⟩ := cursor
  simp only [walk, walkNode, Cursor.children, ← walkList_eq_flatMap]

/-- The walk lists the node and all that is below it, and nothing else. -/
theorem mem_walk_iff {top cursor : Cursor} : cursor ∈ top.walk ↔ top.Below cursor := by
  induction top using induction_down with
  | step top ih =>
      rw [walk_eq, List.mem_cons, List.mem_flatMap, below_iff]
      constructor
      · rintro (h | ⟨child, hChild, h⟩)
        · exact Or.inl h
        · exact Or.inr ⟨child, hChild, (ih child hChild).mp h⟩
      · rintro (h | ⟨child, hChild, h⟩)
        · exact Or.inl h
        · exact Or.inr ⟨child, hChild, (ih child hChild).mpr h⟩

theorem mem_children_of_mem_namedChildren {cursor child : Cursor}
    (h : child ∈ cursor.namedChildren) : child ∈ cursor.children :=
  (List.mem_filter.mp h).1

theorem mem_children_of_child? {cursor child : Cursor} {field : Field}
    (h : cursor.child? field = some child) : child ∈ cursor.children :=
  List.mem_of_find?_eq_some h

/-- Named children are below whatever the node is below. -/
theorem Below.named {top cursor child : Cursor} (above : top.Below cursor)
    (h : child ∈ cursor.namedChildren) : top.Below child :=
  above.down (mem_children_of_mem_namedChildren h)

/-- So is the child in a role. -/
theorem Below.role {top cursor child : Cursor} {field : Field} (above : top.Below cursor)
    (h : cursor.child? field = some child) : top.Below child :=
  above.down (mem_children_of_child? h)

/-- So is the first expression of a node. -/
theorem Below.expression {top cursor child : Cursor} (above : top.Below cursor)
    (h : cursor.firstExpression? = some child) : top.Below child :=
  above.named (List.mem_of_find?_eq_some h)

end ComponentQueries.Cursor
